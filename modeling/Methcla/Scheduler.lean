import Methcla.Osc
import Mathlib.Data.List.Sort
import Mathlib.Algebra.Order.Ring.Rat
/-!
`ScheduleItem` and `Scheduler` (`Engine.cpp`): the bounded, stable priority queue of
requests waiting for their time.

`Scheduler` wraps a `boost::heap::priority_queue` declared `stable<true>`. Boost pops the
element that is greatest under `ScheduleItem::operator<`, and among elements neither of
which is less than the other, the one pushed first; it numbers pushes with its stability
counter to know which. `operator<` is inverted (`time() > other.time()`), so the greatest
element is the one with the earliest time. `ScheduleItem.popsBefore_iff` states that: an item
pops before another exactly when its `(time, counter)` is lexicographically smaller.

The heap's layout is boost's business; what the engine relies on is the order in which
items come out. So the queue is modelled by that order: a list sorted by `(time, counter)`,
its head the top, a push an ordered insertion. The sortedness is a field of `Scheduler`,
so no other queue can be built.

Times are `Methcla_Time` seconds, which the code holds in a `double`. The model holds them as
exact rationals and leaves the rounding out. A result that only compares times, as the
scheduler's order does, holds for the `double` values whenever the conversion keeps their
order; a result that computes with times (a block's end, a sample offset) is about the
arithmetic the code means.
-/

set_option autoImplicit false

namespace Methcla

/-- `Methcla_Time`: seconds, a `double` in the code, exact here. -/
abbrev Time := ℚ

/-- `ScheduleItem`: its time, its request, and the stability counter boost gave the push. -/
structure ScheduleItem (ρ : Type) where
  time : Time
  seq : Nat
  request : ρ
  deriving DecidableEq

namespace ScheduleItem

variable {ρ : Type}

/-- `ScheduleItem::operator<`: `time() > other.time()`. -/
def lt (a b : ScheduleItem ρ) : Prop := b.time < a.time

/-- The order boost's stable heap pops in: the greater under `operator<` first, and among
equivalent elements the one pushed first. -/
def PopsBefore (a b : ScheduleItem ρ) : Prop :=
  b.lt a ∨ (¬ a.lt b ∧ ¬ b.lt a ∧ a.seq < b.seq)

/-- **The inverted comparator yields earliest-first.** -/
theorem popsBefore_iff (a b : ScheduleItem ρ) :
    a.PopsBefore b ↔ a.time < b.time ∨ (a.time = b.time ∧ a.seq < b.seq) := by
  simp only [PopsBefore, lt, not_lt]
  constructor
  · rintro (h | ⟨h1, h2, h3⟩)
    · exact .inl h
    · exact .inr ⟨le_antisymm h1 h2, h3⟩
  · rintro (h | ⟨h1, h2⟩)
    · exact .inl h
    · exact .inr ⟨h1.le, h1.ge, h2⟩

/-- The queue order: `a` comes out no later than `b`. -/
def Precedes (a b : ScheduleItem ρ) : Prop :=
  a.time < b.time ∨ (a.time = b.time ∧ a.seq ≤ b.seq)

instance : DecidableRel (@Precedes ρ) := fun _ _ => inferInstanceAs (Decidable (_ ∨ _))

instance : IsTotal (ScheduleItem ρ) Precedes where
  total a b := by
    simp only [Precedes]
    rcases lt_trichotomy a.time b.time with h | h | h
    · exact .inl (.inl h)
    · rcases Nat.le_total a.seq b.seq with h' | h'
      · exact .inl (.inr ⟨h, h'⟩)
      · exact .inr (.inr ⟨h.symm, h'⟩)
    · exact .inr (.inl h)

instance : IsTrans (ScheduleItem ρ) Precedes where
  trans a b c := by
    simp only [Precedes]
    rintro (h1 | ⟨h1, h1'⟩) (h2 | ⟨h2, h2'⟩)
    · exact .inl (h1.trans h2)
    · exact .inl (h2 ▸ h1)
    · exact .inl (h1 ▸ h2)
    · exact .inr ⟨h1.trans h2, h1'.trans h2'⟩

theorem Precedes.time_le {a b : ScheduleItem ρ} (h : a.Precedes b) : a.time ≤ b.time := by
  rcases h with h | ⟨h, -⟩
  · exact h.le
  · exact h.le

/-- Of two items, at most one pops before the other. -/
theorem PopsBefore.asymm {a b : ScheduleItem ρ} (h : a.PopsBefore b) : ¬ b.PopsBefore a := by
  rw [popsBefore_iff] at h ⊢
  rcases h with h | ⟨h, h'⟩ <;> rintro (h₂ | ⟨h₂, h₂'⟩)
  · exact lt_asymm h h₂
  · exact lt_irrefl _ (h₂ ▸ h)
  · exact lt_irrefl _ (h ▸ h₂)
  · omega

/-- With distinct counters, the queue order is the pop order. -/
theorem precedes_iff_popsBefore {a b : ScheduleItem ρ} (h : a.seq ≠ b.seq) :
    a.Precedes b ↔ a.PopsBefore b := by
  rw [popsBefore_iff, Precedes]
  constructor
  · rintro (h1 | ⟨h1, h2⟩)
    · exact .inl h1
    · exact .inr ⟨h1, lt_of_le_of_ne h2 h⟩
  · rintro (h1 | ⟨h1, h2⟩)
    · exact .inl h1
    · exact .inr ⟨h1, h2.le⟩

end ScheduleItem

/-- `Scheduler`: at most `maxSize` items, in the order they come out, and the stability
counter for the next push. No two queued items have the same counter. -/
structure Scheduler (ρ : Type) where
  maxSize : Nat
  queue : List (ScheduleItem ρ)
  counter : Nat
  sorted : queue.Sorted ScheduleItem.Precedes
  seq_lt : ∀ x ∈ queue, x.seq < counter
  seq_nodup : (queue.map (·.seq)).Nodup

namespace Scheduler

variable {ρ : Type}

/-- `Scheduler(maxSize)`: `reserve` only, nothing queued. -/
def new (maxSize : Nat) : Scheduler ρ :=
  ⟨maxSize, [], 0, List.sorted_nil, fun _ h => absurd h (List.not_mem_nil _), List.nodup_nil⟩

/-- `push(time, request)`: queue it, or throw once `maxSize` items are waiting. -/
def push (s : Scheduler ρ) (time : Time) (request : ρ) : Except Exception (Scheduler ρ) :=
  if s.queue.length < s.maxSize then
    .ok ⟨s.maxSize, s.queue.orderedInsert ScheduleItem.Precedes ⟨time, s.counter, request⟩,
      s.counter + 1, s.sorted.orderedInsert _ _, by
        intro x hx
        rcases (List.mem_orderedInsert _).1 hx with rfl | hx
        · exact Nat.lt_succ_self _
        · exact Nat.lt_succ_of_lt (s.seq_lt x hx),
      ((List.perm_orderedInsert _ _ _).map _).nodup_iff.2 <| List.nodup_cons.2
        ⟨fun h => let ⟨x, hx, hxs⟩ := List.mem_map.1 h; Nat.lt_irrefl _ (hxs ▸ s.seq_lt x hx),
          s.seq_nodup⟩⟩
  else .error (.runtimeError "Scheduler queue overflow")

theorem push_queue {s s' : Scheduler ρ} {time : Time} {request : ρ}
    (h : s.push time request = .ok s') :
    s'.queue = s.queue.orderedInsert ScheduleItem.Precedes ⟨time, s.counter, request⟩ := by
  unfold push at h
  split at h
  · cases h; rfl
  · cases h

theorem push_queue_perm {s s' : Scheduler ρ} {time : Time} {request : ρ}
    (h : s.push time request = .ok s') :
    s'.queue.Perm (⟨time, s.counter, request⟩ :: s.queue) := by
  rw [push_queue h]
  exact List.perm_orderedInsert _ _ _

/-- A push that returns added one item to a queue that had room for it. -/
theorem push_length {s s' : Scheduler ρ} {time : Time} {request : ρ}
    (h : s.push time request = .ok s') :
    s'.maxSize = s.maxSize ∧ s'.queue.length = s.queue.length + 1 ∧ s.queue.length < s.maxSize := by
  unfold push at h
  split at h
  · cases h
    exact ⟨rfl, List.orderedInsert_length _ _ _, ‹_›⟩
  · cases h

/-- A push onto a scheduler with room returns. -/
theorem push_ok_of_lt {s : Scheduler ρ} (h : s.queue.length < s.maxSize) (time : Time) (request : ρ) :
    ∃ s', s.push time request = .ok s' := by
  unfold push
  rw [if_pos h]
  exact ⟨_, rfl⟩

/-- Pushes in turn, a push that throws skipped: what `processRequests` does to the scheduler
with the bundles it drains. -/
def pushAll (s : Scheduler ρ) : List (Time × ρ) → Scheduler ρ
  | [] => s
  | (time, request) :: rest =>
    match s.push time request with
    | .ok s' => s'.pushAll rest
    | .error _ => s.pushAll rest

/-- Pushes that fit all return: each adds one item. -/
theorem pushAll_length (s : Scheduler ρ) (items : List (Time × ρ))
    (h : s.queue.length + items.length ≤ s.maxSize) :
    (s.pushAll items).maxSize = s.maxSize ∧
      (s.pushAll items).queue.length = s.queue.length + items.length := by
  induction items generalizing s with
  | nil => exact ⟨rfl, rfl⟩
  | cons a items ih =>
    obtain ⟨s', hs⟩ := push_ok_of_lt (s := s) (by simp at h; omega) a.1 a.2
    obtain ⟨h₁, h₂, -⟩ := push_length hs
    obtain ⟨h₃, h₄⟩ := ih s' (by simp at h; omega)
    simp only [pushAll, hs, List.length_cons]
    omega

/-- A push onto an empty scheduler with room makes the pushed item the whole queue. -/
theorem push_of_empty {s : Scheduler ρ} (hq : s.queue = []) (hmax : 0 < s.maxSize) (time : Time)
    (request : ρ) : ∃ s', s.push time request = .ok s' ∧ s'.queue = [⟨time, s.counter, request⟩] := by
  unfold push
  rw [if_pos (by rw [hq]; exact hmax)]
  exact ⟨_, rfl, by simp only [hq]; rfl⟩

/-- `isEmpty()`. -/
def isEmpty (s : Scheduler ρ) : Bool := s.queue.isEmpty

/-- `m_queue.top()`, whose `time()` and `request()` are `Scheduler::time()` and `top()`. -/
def top? (s : Scheduler ρ) : Option (ScheduleItem ρ) := s.queue.head?

/-- `pop()`. -/
def pop (s : Scheduler ρ) : Scheduler ρ :=
  ⟨s.maxSize, s.queue.tail, s.counter, s.sorted.tail,
    fun x hx => s.seq_lt x (List.mem_of_mem_tail hx),
    List.map_tail _ _ ▸ s.seq_nodup.sublist (List.tail_sublist _)⟩

@[simp] theorem pop_queue (s : Scheduler ρ) : s.pop.queue = s.queue.tail := rfl

/-- **The top is the item that pops first.** The queue is sorted and no two queued items
have the same counter, so the head pops before every other item of the queue. -/
theorem top_popsBefore {s : Scheduler ρ} {x y : ScheduleItem ρ} (htop : s.top? = some y)
    (hx : x ∈ s.queue) (hne : x ≠ y) : y.PopsBefore x := by
  obtain ⟨rest, hq⟩ := List.head?_eq_some_iff.1 htop
  have hsorted := s.sorted
  have hnodup := s.seq_nodup
  rw [hq] at hx hsorted hnodup
  have hx' : x ∈ rest := (List.mem_cons.1 hx).resolve_left hne
  have hseq : y.seq ≠ x.seq := fun h =>
    (List.nodup_cons.1 hnodup).1 (List.mem_map.2 ⟨x, hx', h.symm⟩)
  exact (ScheduleItem.precedes_iff_popsBefore hseq).1 (List.rel_of_sorted_cons hsorted x hx')

/-- An item that pops before another keeps that one from the top while it is queued. -/
theorem top_ne_of_popsBefore {s : Scheduler ρ} {x y : ScheduleItem ρ} (hx : x ∈ s.queue)
    (hxy : x.PopsBefore y) : s.top? ≠ some y := fun htop =>
  hxy.asymm (top_popsBefore htop hx fun h => by subst h; exact hxy.asymm hxy)

end Scheduler

end Methcla
