import Mathlib.Data.List.Basic
import Mathlib.Data.List.Nodup
/-!
`Request`, the reference-counted handle on a copied OSC packet (`Engine.cpp`, class
`Request`).

A packet block holds the packet and a count `m_refs`. Handles are copied into the request
queue, into every `ScheduleItem`, out of `Scheduler::top()` and into `processScheduler`'s
local; each copy is a copy construction, each reuse a copy assignment, each scope exit a
destruction. So every use the engine makes of a request is a sequence of the five
operations below, on handles named by their slot.

The result, `request_refs_count_handles`, is the representation invariant over any such
sequence: a block's `m_refs` is the number of live handles pointing to it, no live handle
points to a block already handed to `perform_free_data`, a block is handed over at most
once, and it is handed over by exactly the operation that drops its last handle. Copy
assignment between two handles of one block is the case to watch: `operator=` releases
the left handle before it reads the right one, which is safe only because the count is
still at least one there.

`m_refs` is a `size_t`; counting it in `Nat` is exact here, since every count is the
length of a list of live handles, each of them an object in memory.
-/

set_option autoImplicit false

namespace Methcla

/-- The fields of a `Request` handle. `m_env` is kept as "set or `nullptr`": `release`
calls `m_env->sendToWorker` and must never do so through `nullptr`. -/
structure Request where
  env : Bool
  data : Option Nat
  size : Nat
  deriving Repr, DecidableEq

/-- The handles, the packet blocks and what was handed to the worker. `handles` has one
slot per handle object ever constructed, `none` once it is destroyed. `freed` lists the
blocks sent to `perform_free_data`, in order. -/
structure RequestHeap where
  refs : Nat → Nat
  next : Nat
  handles : List (Option Request)
  freed : List Nat

namespace RequestHeap

/-- No handles, no blocks. -/
def empty : RequestHeap := ⟨fun _ => 0, 0, [], []⟩

/-- Does the handle in a slot point to block `b`? -/
def PointsTo (b : Nat) (o : Option Request) : Bool := o.bind Request.data = some b

/-- The number of live handles whose `m_data` is block `b`. -/
def count (st : RequestHeap) (b : Nat) : Nat := st.handles.countP (PointsTo b)

/-! ## The member functions -/

/-- `Request()`. -/
def Request.default : Request := ⟨false, none, 0⟩

/-- `retain()`. -/
def retain (r : Request) (st : RequestHeap) : RequestHeap :=
  match r.data with
  | some b => { st with refs := Function.update st.refs b (st.refs b + 1) }
  | none => st

/-- `release()`: drop one reference; the last one sends the block to the worker's
`perform_free_data` and clears the handle. -/
def release (r : Request) (st : RequestHeap) : Request × RequestHeap :=
  match r.data with
  | some b =>
    let st := { st with refs := Function.update st.refs b (st.refs b - 1) }
    if st.refs b = 0 then (⟨false, none, 0⟩, { st with freed := st.freed ++ [b] })
    else (r, st)
  | none => (r, st)

/-- `operator=(other)` on the handle in slot `dst`, with `other` in slot `src`. -/
def assign (dst src : Nat) (st : RequestHeap) : Option RequestHeap :=
  match st.handles[dst]?, st.handles[src]? with
  | some (some this), some (some _) =>
    if dst = src then some st
    else
      let (_, st) := release this st
      match st.handles[src]? with
      | some (some other) =>
        some (retain other { st with handles := st.handles.set dst (some other) })
      | _ => none
  | _, _ => none

/-- The operations on `Request` handles. -/
inductive Op where
  /-- `Request(env, packet, size)`: a new block with one reference. -/
  | construct (size : Nat)
  /-- `Request()`. -/
  | default
  /-- `Request(const Request& other)`: `Request()` then `*this = other`. -/
  | copy (src : Nat)
  /-- `dst = src`, self-assignment included. -/
  | assign (dst src : Nat)
  /-- `~Request()`. -/
  | destroy (h : Nat)
  deriving Repr, DecidableEq

/-- One operation; `none` when it names a slot that holds no live handle. -/
def apply (st : RequestHeap) : Op → Option RequestHeap
  | .construct size =>
    some { st with refs := Function.update st.refs st.next 1, next := st.next + 1,
                   handles := st.handles ++ [some ⟨true, some st.next, size⟩] }
  | .default => some { st with handles := st.handles ++ [some Request.default] }
  | .copy src =>
    assign st.handles.length src { st with handles := st.handles ++ [some Request.default] }
  | .assign dst src => assign dst src st
  | .destroy h =>
    match st.handles[h]? with
    | some (some r) =>
      let st := (release r st).2
      some { st with handles := st.handles.set h none }
    | _ => none

/-- A sequence of operations from `st`. -/
def run (st : RequestHeap) : List Op → Option RequestHeap
  | [] => some st
  | op :: ops => (st.apply op).bind (run · ops)

/-! ## Counting handles -/

theorem countP_set_add {α : Type} (p : α → Bool) : ∀ (l : List α) (i : Nat) (a : α)
    (h : i < l.length),
    (l.set i a).countP p + (if p l[i] then 1 else 0) = l.countP p + (if p a then 1 else 0)
  | [], i, a, h => absurd h (by simp)
  | x :: xs, 0, a, _ => by
    simp only [List.set_cons_zero, List.countP_cons, List.getElem_cons_zero]; omega
  | x :: xs, i + 1, a, h => by
    have := countP_set_add p xs i a (by simpa using h)
    simp only [List.set_cons_succ, List.countP_cons, List.getElem_cons_succ]; omega

@[simp] theorem pointsTo_none (b : Nat) : PointsTo b none = false := rfl
@[simp] theorem pointsTo_some (b : Nat) (r : Request) :
    PointsTo b (some r) = decide (r.data = some b) := rfl

/-- Changing what one slot holds moves at most one pointer. -/
theorem count_set (st : RequestHeap) {i : Nat} {o : Option Request} (hi : st.handles[i]? = some o)
    (o' : Option Request) (b : Nat) :
    { st with handles := st.handles.set i o' }.count b + (if PointsTo b o then 1 else 0) =
      st.count b + (if PointsTo b o' then 1 else 0) := by
  obtain ⟨h, rfl⟩ := List.getElem?_eq_some_iff.1 hi
  exact countP_set_add _ _ _ _ h

theorem count_append (st : RequestHeap) (o : Option Request) (b : Nat) :
    { st with handles := st.handles ++ [o] }.count b =
      st.count b + if PointsTo b o then 1 else 0 := by
  simp [count, List.countP_cons]

/-- A live handle pointing to `a` is counted. -/
theorem count_pos {st : RequestHeap} {i : Nat} {r : Request} {a : Nat}
    (hi : st.handles[i]? = some (some r)) (ha : r.data = some a) : 0 < st.count a := by
  have := count_set st hi none a
  simp [ha] at this
  omega

theorem release_eq (r : Request) (st : RequestHeap) {a : Nat} (ha : r.data = some a) :
    (release r st).2 =
      { st with
        refs := Function.update st.refs a (st.refs a - 1)
        freed := (if st.refs a - 1 = 0 then st.freed ++ [a] else st.freed) } := by
  simp only [release, ha]; split <;> simp_all

theorem release_none (r : Request) (st : RequestHeap) (ha : r.data = none) :
    (release r st).2 = st := by
  simp [release, ha]

/-! ## The invariant -/

/-- The representation invariant of `Request`. -/
structure Inv (st : RequestHeap) : Prop where
  refs_eq : ∀ b, st.refs b = st.count b
  freed_dead : ∀ b ∈ st.freed, st.count b = 0
  nodup : st.freed.Nodup
  live : ∀ b < st.next, b ∉ st.freed → 0 < st.count b
  bounded : ∀ b, 0 < st.count b → b < st.next
  freed_lt : ∀ b ∈ st.freed, b < st.next
  env : ∀ r, some r ∈ st.handles → r.data ≠ none → r.env = true

/-- Between two states, the blocks newly handed to `perform_free_data` are exactly those
whose last live handle went away. -/
def Drops (st st' : RequestHeap) : Prop :=
  ∀ b, (b ∈ st'.freed ∧ b ∉ st.freed) ↔ (0 < st.count b ∧ st'.count b = 0)

@[simp] theorem release_handles (r : Request) (st : RequestHeap) :
    (release r st).2.handles = st.handles := by
  cases hr : r.data with
  | none => rw [release_none r st hr]
  | some a => rw [release_eq r st hr]

@[simp] theorem release_next (r : Request) (st : RequestHeap) :
    (release r st).2.next = st.next := by
  cases hr : r.data with
  | none => rw [release_none r st hr]
  | some a => rw [release_eq r st hr]

@[simp] theorem retain_handles (r : Request) (st : RequestHeap) :
    (retain r st).handles = st.handles := by unfold retain; split <;> rfl
@[simp] theorem retain_next (r : Request) (st : RequestHeap) :
    (retain r st).next = st.next := by unfold retain; split <;> rfl
@[simp] theorem retain_freed (r : Request) (st : RequestHeap) :
    (retain r st).freed = st.freed := by unfold retain; split <;> rfl

theorem retain_refs (r : Request) (st : RequestHeap) (x : Nat) :
    (retain r st).refs x = st.refs x + if r.data = some x then 1 else 0 := by
  unfold retain
  split
  · rename_i b hb
    by_cases hx : x = b <;> simp [Function.update_apply, hb, hx, Ne.symm]
  · rename_i hb; simp [hb]

/-- Two distinct slots pointing to one block count twice. -/
theorem count_two {st : RequestHeap} {i j : Nat} (hij : j ≠ i) {r r' : Request} {a : Nat}
    (hi : st.handles[i]? = some (some r)) (hj : st.handles[j]? = some (some r'))
    (ha : r.data = some a) (ha' : r'.data = some a) : 2 ≤ st.count a := by
  have h1 := count_set st hi none a
  have h2 : 0 < ({ st with handles := st.handles.set i none } : RequestHeap).count a :=
    count_pos (i := j) (by simpa [List.getElem?_set_ne (Ne.symm hij)] using hj) ha'
  simp [ha] at h1
  omega

theorem inv_empty : empty.Inv :=
  ⟨fun _ => rfl, by simp [empty], List.nodup_nil, by simp [empty], by simp [empty, count],
    by simp [empty], by simp [empty]⟩

/-! ### Replacing one handle

The handle in slot `i`, `r`, is released and the slot then holds `o'`: nothing (the
destructor) or a copy of a live handle of another slot (copy assignment), retained. The
lemmas below say what that does to one block's count, references and hand-over; `Inv.replace`
puts them together. -/

section Replace

variable {st : RequestHeap} {i : Nat} {r : Request} {o' : Option Request} {st' : RequestHeap}

/-- The replacement moves one pointer in the handle slots. -/
theorem replace_count (hi : st.handles[i]? = some (some r))
    (h : st' = (match o' with | some r' => retain r' | none => id)
      { (release r st).2 with handles := st.handles.set i o' }) (x : Nat) :
    st'.count x + (if r.data = some x then 1 else 0) =
      st.count x + if o'.bind Request.data = some x then 1 else 0 := by
  have := count_set st hi o' x
  subst h
  cases o' <;> simpa [count] using this

/-- It moves one reference the same way. -/
theorem replace_refs (hst : st.Inv) (hi : st.handles[i]? = some (some r))
    (h : st' = (match o' with | some r' => retain r' | none => id)
      { (release r st).2 with handles := st.handles.set i o' }) (x : Nat) :
    st'.refs x + (if r.data = some x then 1 else 0) =
      st.refs x + if o'.bind Request.data = some x then 1 else 0 := by
  subst h
  cases hr : r.data with
  | none => cases o' <;> simp [release_none r st hr, retain_refs]
  | some a =>
    have hpos : 0 < st.refs a := hst.refs_eq a ▸ count_pos hi hr
    rw [release_eq r st hr]
    by_cases hx : a = x
    · subst hx
      cases o' <;> simp [retain_refs] <;> omega
    · cases o' <;> simp [retain_refs, Function.update_apply, Ne.symm hx, hx]

/-- The old handle's block is handed over exactly when that handle was its last one. -/
theorem replace_freed (hst : st.Inv) (hi : st.handles[i]? = some (some r))
    (h : st' = (match o' with | some r' => retain r' | none => id)
      { (release r st).2 with handles := st.handles.set i o' }) :
    (st'.freed = st.freed ∧ ∀ a, r.data = some a → st.count a ≠ 1) ∨
      ∃ a, r.data = some a ∧ st.count a = 1 ∧ st'.freed = st.freed ++ [a] := by
  subst h
  cases hr : r.data with
  | none => exact .inl ⟨by cases o' <;> simp [release_none r st hr], by simp⟩
  | some a =>
    have hpos := count_pos hi hr
    rw [release_eq r st hr, hst.refs_eq a]
    by_cases h1 : st.count a = 1
    · exact .inr ⟨a, rfl, h1, by cases o' <;> simp [h1]⟩
    · exact .inl ⟨by cases o' <;> simp [show st.count a - 1 ≠ 0 by omega], by simpa using h1⟩

/-- **One block through a replacement**: its references still count its handles, it is
handed over now exactly when it loses its last handle, and a block that keeps a handle was
live before. -/
theorem replace_block (hst : st.Inv) (hi : st.handles[i]? = some (some r))
    (ho' : ∀ r', o' = some r' → ∃ j, j ≠ i ∧ st.handles[j]? = some (some r'))
    (h : st' = (match o' with | some r' => retain r' | none => id)
      { (release r st).2 with handles := st.handles.set i o' }) (x : Nat) :
    (st'.refs x = st'.count x) ∧
      (x ∈ st'.freed ↔ x ∈ st.freed ∨ (r.data = some x ∧ st.count x = 1)) ∧
      (x ∈ st'.freed → st'.count x = 0) ∧
      (0 < st.count x → x ∉ st'.freed → 0 < st'.count x) ∧
      (0 < st'.count x → 0 < st.count x) := by
  -- The new handle points to a block that has a live handle elsewhere.
  have hJ : o'.bind Request.data = some x → 0 < st.count x := by
    intro hx
    obtain ⟨r', rfl⟩ : ∃ r', o' = some r' := by cases o' <;> simp_all
    obtain ⟨j, -, hj⟩ := ho' r' rfl
    exact count_pos hj (by simpa using hx)
  have hboth : r.data = some x → o'.bind Request.data = some x → 2 ≤ st.count x := by
    intro hx hx'
    obtain ⟨r', rfl⟩ : ∃ r', o' = some r' := by cases o' <;> simp_all
    obtain ⟨j, hj, hjs⟩ := ho' r' rfl
    exact count_two hj hi hjs hx (by simpa using hx')
  have hI : r.data = some x → 0 < st.count x := count_pos hi
  have e1 := replace_count hi h x
  have e2 := replace_refs hst hi h x
  have e3 := hst.refs_eq x
  have hmem : x ∈ st'.freed ↔ x ∈ st.freed ∨ (r.data = some x ∧ st.count x = 1) := by
    rcases replace_freed hst hi h with ⟨hf, hn⟩ | ⟨a, ha, hca, hf⟩ <;> rw [hf]
    · simp only [iff_self_or, and_imp]
      intro hx hcx; exact absurd hcx (hn x hx)
    · simp only [List.mem_append, List.mem_singleton]
      constructor
      · rintro (h | rfl) <;> simp_all
      · rintro (h | ⟨h1, -⟩) <;> simp_all
  refine ⟨by omega, hmem, fun hf => ?_, fun hpos hf => ?_, fun hpos => ?_⟩
  · rcases hmem.1 hf with h' | ⟨hIx, h'⟩
    · have := hst.freed_dead x h'
      by_cases hIx : r.data = some x
      · have := hI hIx; omega
      · by_cases hJx : o'.bind Request.data = some x
        · have := hJ hJx; omega
        · simp only [hIx, hJx, if_false] at e1; omega
    · by_cases hJx : o'.bind Request.data = some x
      · have := hboth hIx hJx; omega
      · simp only [hIx, hJx, if_true, if_false] at e1; omega
  · by_cases hIx : r.data = some x
    · have h1 : st.count x ≠ 1 := fun h => hf (hmem.2 (.inr ⟨hIx, h⟩))
      simp only [hIx, if_true] at e1; split at e1 <;> omega
    · simp only [hIx, if_false] at e1; split at e1 <;> omega
  · by_cases hIx : r.data = some x
    · exact hI hIx
    · by_cases hJx : o'.bind Request.data = some x
      · exact hJ hJx
      · simp only [hIx, hJx, if_false] at e1; omega

/-- **Replacing one handle** keeps the invariant: the counts follow the handles, and the
block of the old handle is handed to the worker exactly when that was its last handle. -/
theorem Inv.replace (hst : st.Inv) (hi : st.handles[i]? = some (some r))
    (ho' : ∀ r', o' = some r' → ∃ j, j ≠ i ∧ st.handles[j]? = some (some r'))
    (h : st' = (match o' with | some r' => retain r' | none => id)
      { (release r st).2 with handles := st.handles.set i o' }) :
    st'.Inv ∧ Drops st st' := by
  have hx := replace_block hst hi ho' h
  have hlive : ∀ x, 0 < st.count x → x ∉ st.freed := fun x hx hf => by
    have := hst.freed_dead x hf; omega
  have hnext : st'.next = st.next := by subst h; cases o' <;> simp
  have hhandles : st'.handles = st.handles.set i o' := by subst h; cases o' <;> simp
  refine ⟨⟨fun x => (hx x).1, fun x hxf => (hx x).2.2.1 hxf, ?nodup, ?live, ?bounded, ?lt,
    ?env⟩, fun x => ⟨?drop, ?dropped⟩⟩
  case nodup =>
    rcases replace_freed hst hi h with ⟨hf, -⟩ | ⟨a, ha, hca, hf⟩ <;> rw [hf]
    · exact hst.nodup
    · exact hst.nodup.append (List.nodup_singleton a)
        (List.disjoint_singleton.2 (hlive a (by omega)))
  case live =>
    intro x hxn hxf
    rw [hnext] at hxn
    exact (hx x).2.2.2.1 (hst.live x hxn fun h' => hxf ((hx x).2.1.2 (.inl h'))) hxf
  case bounded => intro x hpos; rw [hnext]; exact hst.bounded x ((hx x).2.2.2.2 hpos)
  case lt =>
    intro x hxf; rw [hnext]
    rcases (hx x).2.1.1 hxf with h' | ⟨-, h'⟩
    · exact hst.freed_lt x h'
    · exact hst.bounded x (by omega)
  case env =>
    intro r' hr' hd
    rw [hhandles] at hr'
    rcases List.mem_or_eq_of_mem_set hr' with h' | h'
    · exact hst.env r' h' hd
    · obtain ⟨j, -, hj⟩ := ho' r' h'.symm
      exact hst.env r' (List.getElem?_mem hj) hd
  case drop =>
    rintro ⟨h1, h2⟩
    rcases (hx x).2.1.1 h1 with h' | ⟨-, h4⟩
    · exact absurd h' h2
    · exact ⟨by omega, (hx x).2.2.1 h1⟩
  case dropped =>
    rintro ⟨h1, h2⟩
    exact ⟨by_contra fun h' => by have := (hx x).2.2.2.1 h1 h'; omega, hlive x h1⟩

end Replace

theorem drops_refl (st : RequestHeap) : Drops st st :=
  fun _ => ⟨fun ⟨h1, h2⟩ => absurd h1 h2, fun ⟨h1, h2⟩ => by omega⟩

/-- Copy assignment, self-assignment included. -/
theorem Inv.assign {st st' : RequestHeap} (hst : st.Inv) {dst src : Nat}
    (h : assign dst src st = some st') : st'.Inv ∧ Drops st st' := by
  unfold RequestHeap.assign at h
  split at h
  · rename_i this o hd hs
    split at h
    · cases h; exact ⟨hst, drops_refl st⟩
    · rename_i hne
      simp only [release_handles, hs, Option.some.injEq] at h
      exact hst.replace hd (fun r' hr' => ⟨src, Ne.symm hne, Option.some.inj hr' ▸ hs⟩) h.symm
  · cases h

/-- Appending a handle that points to no block changes no count. -/
theorem Inv.append_null {st : RequestHeap} (hst : st.Inv) {r : Request} (hr : r.data = none) :
    ({ st with handles := st.handles ++ [some r] } : RequestHeap).Inv ∧
      Drops st { st with handles := st.handles ++ [some r] } := by
  have hc : ∀ b, ({ st with handles := st.handles ++ [some r] } : RequestHeap).count b =
      st.count b := by intro b; simp [count_append, hr]
  refine ⟨⟨fun b => (hc b).symm ▸ hst.refs_eq b, fun b hb => (hc b).symm ▸ hst.freed_dead b hb,
    hst.nodup, fun b hb hf => (hc b).symm ▸ hst.live b hb hf,
    fun b hb => hst.bounded b ((hc b) ▸ hb), hst.freed_lt, fun r' hr' hd => ?_⟩, fun b => ?_⟩
  · rcases List.mem_append.1 hr' with h' | h'
    · exact hst.env r' h' hd
    · simp only [List.mem_singleton, Option.some.injEq] at h'; subst h'; exact absurd hr hd
  · rw [hc]; exact drops_refl st b

/-- `Request(env, packet, size)`: a fresh block with one handle. -/
theorem Inv.construct {st : RequestHeap} (hst : st.Inv) (size : Nat) :
    let st' : RequestHeap :=
      { st with
        refs := Function.update st.refs st.next 1
        next := st.next + 1
        handles := st.handles ++ [some ⟨true, some st.next, size⟩] }
    st'.Inv ∧ Drops st st' := by
  intro st'
  have hc : ∀ b, st'.count b = st.count b + if b = st.next then 1 else 0 := by
    intro b; simp [st', count, List.countP_cons, eq_comm]
  have h0 : st.count st.next = 0 := by
    by_contra h0; exact absurd (hst.bounded _ (Nat.pos_of_ne_zero h0)) (lt_irrefl _)
  refine ⟨⟨fun b => ?_, fun b hb => ?_, hst.nodup, fun b hb hf => ?_, fun b hb => ?_,
    fun b hb => ?_, fun r hr hd => ?_⟩, fun b => ?_⟩
  · by_cases hb : b = st.next
    · subst hb; simp [st', hc, h0]
    · simp [st', hc, hb, Function.update_noteq hb, hst.refs_eq b]
  · have := hst.freed_lt b hb
    simp [hc, show b ≠ st.next by omega, hst.freed_dead b hb]
  · rw [hc]; by_cases h : b = st.next
    · simp [h]
    · have := hst.live b (by simp only [st'] at hb; omega) hf; omega
  · rw [hc] at hb
    show b < st.next + 1
    by_cases h : b = st.next
    · omega
    · simp only [h, if_false, Nat.add_zero] at hb; have := hst.bounded b hb; omega
  · show b < st.next + 1; have := hst.freed_lt b hb; omega
  · rcases List.mem_append.1 hr with h' | h'
    · exact hst.env r h' hd
    · simp only [List.mem_singleton, Option.some.injEq] at h'; subst h'; rfl
  · rw [hc]; constructor
    · rintro ⟨h1, h2⟩; exact absurd h1 h2
    · rintro ⟨h1, h2⟩; omega

/-- **One operation on handles keeps the invariant**, and hands to the worker exactly the
blocks whose last handle it removes. -/
theorem Inv.apply {st st' : RequestHeap} (hst : st.Inv) {op : Op} (h : st.apply op = some st') :
    st'.Inv ∧ Drops st st' := by
  cases op with
  | construct size => cases h; exact hst.construct size
  | default => cases h; exact hst.append_null rfl
  | copy src =>
    obtain ⟨h1, d1⟩ := hst.append_null (r := Request.default) rfl
    obtain ⟨h2, d2⟩ := h1.assign h
    refine ⟨h2, fun b => (d2 b).trans ?_⟩
    have hc : ({ st with handles := st.handles ++ [some Request.default] } : RequestHeap).count b =
        st.count b := by simp [count_append, Request.default]
    rw [hc]
  | assign dst src => exact hst.assign h
  | destroy k =>
    simp only [RequestHeap.apply] at h
    split at h
    · rename_i r hk
      simp only [release_handles, Option.some.injEq] at h
      exact hst.replace hk (fun _ (h' : (none : Option Request) = some _) => by cases h')
        (by rw [← h]; rfl)
    · cases h

theorem Inv.run {st : RequestHeap} (hst : st.Inv) :
    ∀ {ops : List Op} {st' : RequestHeap}, st.run ops = some st' → st'.Inv := by
  intro ops
  induction ops generalizing st with
  | nil => intro st' h; cases h; exact hst
  | cons op ops ih =>
    intro st' h
    simp only [RequestHeap.run, Option.bind_eq_some] at h
    obtain ⟨st1, h1, h2⟩ := h
    exact ih (hst.apply h1).1 h2

end RequestHeap

open RequestHeap in
/-- **`Request` reference counting is exact.** After any sequence of handle operations from
no handles at all, one more operation leaves every block's `m_refs` equal to the number of
live handles pointing to it; no live handle points to a block already sent to
`perform_free_data`; no block is sent twice; a live handle with a block has its `m_env`
set, so `release` never calls through `nullptr`; and the operation sends exactly the blocks
whose last handle it removed. -/
theorem request_refs_count_handles (ops : List Op) (op : Op) {st st' : RequestHeap}
    (hrun : empty.run ops = some st) (hop : st.apply op = some st') :
    (∀ b, st'.refs b = st'.count b) ∧ (∀ b ∈ st'.freed, st'.count b = 0) ∧ st'.freed.Nodup ∧
    (∀ r, some r ∈ st'.handles → r.data ≠ none → r.env = true) ∧
    ∀ b, (b ∈ st'.freed ∧ b ∉ st.freed) ↔ (0 < st.count b ∧ st'.count b = 0) := by
  obtain ⟨h', hd⟩ := (inv_empty.run hrun).apply hop
  exact ⟨h'.refs_eq, h'.freed_dead, h'.nodup, h'.env, hd⟩

open RequestHeap in
/-- Two handles of one block, the second assigned from the first: the case `operator=`
must get right. -/
theorem request_refs_count_handles_shared :
    let st := (empty.run [.construct 8, .copy 0]).getD empty
    let st' := (st.apply (.assign 1 0)).getD empty
    empty.run [.construct 8, .copy 0] = some st ∧ st.apply (.assign 1 0) = some st' ∧
    ((∀ b, st'.refs b = st'.count b) ∧ (∀ b ∈ st'.freed, st'.count b = 0) ∧ st'.freed.Nodup ∧
    (∀ r, some r ∈ st'.handles → r.data ≠ none → r.env = true) ∧
    ∀ b, (b ∈ st'.freed ∧ b ∉ st.freed) ↔ (0 < st.count b ∧ st'.count b = 0)) :=
  ⟨rfl, rfl, request_refs_count_handles [.construct 8, .copy 0] (.assign 1 0) rfl rfl⟩

end Methcla
