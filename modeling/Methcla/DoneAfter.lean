import Mathlib.Algebra.Order.Field.Rat
import Mathlib.Algebra.BigOperators.Group.List
import Mathlib.Tactic.Linarith
/-!
The `DoneAfter` plugin (`plugins/node-control.cpp`): a synth that asks to be freed once it
has processed a given number of seconds of audio.

Its constructor sets `m_numFramesLeft` to `seconds * sampleRate`; each `process` call takes
`numFrames` off while `m_done` is unset, and the call that brings it to zero or below sets
`m_done` and calls `World::synthDone`. The C++ holds `m_numFramesLeft` in a `double`; the
model holds it as an exact rational, so what follows is about the arithmetic the code means,
not about its rounding: `synthDone` is called during exactly the first call whose running
total of frames reaches `seconds * sampleRate`, and in no other
(`doneAfter_calls_synthDone_once`). The proof carries the frames left from call to call:
while the plugin is not done, they are the goal less the frames processed so far.
-/

set_option autoImplicit false

namespace Methcla

/-- `DoneAfter`'s state: `m_numFramesLeft` and `m_done`. -/
structure DoneAfter where
  numFramesLeft : ℚ
  done : Bool
  deriving DecidableEq

namespace DoneAfter

/-- `DoneAfter(world, synthDef, options)`: `m_numFramesLeft(options.m_seconds *
world.sampleRate())`, `m_done(false)`. -/
def construct (seconds sampleRate : ℚ) : DoneAfter := ⟨seconds * sampleRate, false⟩

/-- `DoneAfter::process(world, numFrames)`: the state after the call, and whether it called
`world.synthDone(this)`. -/
def process (s : DoneAfter) (numFrames : Nat) : DoneAfter × Bool :=
  if !s.done then
    let left := s.numFramesLeft - numFrames
    if left ≤ 0 then (⟨left, true⟩, true) else (⟨left, false⟩, false)
  else (s, false)

/-- A sequence of `process` calls with the frame counts `ns`: for each call, whether it called
`synthDone`. -/
def run : DoneAfter → List Nat → List Bool
  | _, [] => []
  | s, n :: ns => (s.process n).2 :: run (s.process n).1 ns

/-- Whether call `k` (counted from `0`) is the first whose running total of frames
`n₁ + … + nₖ` reaches `goal`. -/
def firstToReach (goal : ℚ) (ns : List Nat) (k : Nat) : Bool :=
  decide (goal ≤ ((ns.take (k + 1)).sum : ℚ) ∧ ∀ j < k, ((ns.take (j + 1)).sum : ℚ) < goal)

theorem firstToReach_cons_zero (goal : ℚ) (n : Nat) (ns : List Nat) :
    firstToReach goal (n :: ns) 0 = decide (goal ≤ n) := by
  simp [firstToReach]

theorem firstToReach_cons_succ_of_le {goal : ℚ} {n : Nat} (h : goal ≤ n) (ns : List Nat) (k : Nat) :
    firstToReach goal (n :: ns) (k + 1) = false := by
  simp only [firstToReach, decide_eq_false_iff_not, not_and, not_forall, not_lt]
  exact fun _ => ⟨0, k.succ_pos, by simpa using h⟩

theorem firstToReach_cons_succ_of_lt {goal : ℚ} {n : Nat} (h : (n : ℚ) < goal) (ns : List Nat)
    (k : Nat) : firstToReach goal (n :: ns) (k + 1) = firstToReach (goal - n) ns k := by
  simp only [firstToReach, List.take_succ_cons, List.sum_cons, Nat.cast_add]
  congr 1
  apply propext
  constructor
  · rintro ⟨hk, hj⟩
    exact ⟨by linarith, fun j hjk => by linarith [hj (j + 1) (by omega)]⟩
  · rintro ⟨hk, hj⟩
    refine ⟨by linarith, fun j hjk => ?_⟩
    rcases j with _ | j
    · simpa using h
    · linarith [hj j (by omega)]

/-- Once done, a call does nothing. -/
theorem run_done (left : ℚ) (ns : List Nat) :
    run ⟨left, true⟩ ns = List.replicate ns.length false := by
  induction ns with
  | nil => rfl
  | cons n ns ih => simp [run, process, ih, List.replicate_succ]

theorem run_cons_of_le {left : ℚ} {n : Nat} (h : left - n ≤ 0) (ns : List Nat) :
    run ⟨left, false⟩ (n :: ns) = true :: run ⟨left - n, true⟩ ns := by
  simp [run, process, h]

theorem run_cons_of_lt {left : ℚ} {n : Nat} (h : ¬ left - n ≤ 0) (ns : List Nat) :
    run ⟨left, false⟩ (n :: ns) = false :: run ⟨left - n, false⟩ ns := by
  simp [run, process, h]

/-- **While not done, the call that fires is the first to reach what is left.** -/
theorem run_not_done (left : ℚ) (ns : List Nat) :
    run ⟨left, false⟩ ns = (List.range ns.length).map (firstToReach left ns) := by
  induction ns generalizing left with
  | nil => rfl
  | cons n ns ih =>
    rw [List.length_cons, List.range_succ_eq_map, List.map_cons, List.map_map,
      firstToReach_cons_zero, Function.comp_def]
    by_cases h : left - n ≤ 0
    · have hle : left ≤ n := by linarith
      rw [run_cons_of_le h, run_done, decide_eq_true hle]
      simp [firstToReach_cons_succ_of_le hle]
    · have hlt : (n : ℚ) < left := by linarith
      rw [run_cons_of_lt h, ih, decide_eq_false (by linarith : ¬ left ≤ n)]
      simp [firstToReach_cons_succ_of_lt hlt]

/-- While not done, exactly one call fires if the frames reach what is left, and none if not. -/
theorem count_run_not_done (left : ℚ) (ns : List Nat) :
    (run ⟨left, false⟩ ns).count true = if ns ≠ [] ∧ left ≤ (ns.sum : ℚ) then 1 else 0 := by
  induction ns generalizing left with
  | nil => rfl
  | cons n ns ih =>
    by_cases h : left - n ≤ 0
    · have hreach : left ≤ ((n :: ns).sum : ℚ) := by
        simp only [List.sum_cons, Nat.cast_add]
        linarith [(Nat.cast_nonneg ns.sum : (0 : ℚ) ≤ ns.sum)]
      rw [run_cons_of_le h, run_done, if_pos ⟨List.cons_ne_nil _ _, hreach⟩]
      simp [List.count_replicate]
    · rw [run_cons_of_lt h, List.count_cons_of_ne (by decide), ih]
      rcases ns with _ | ⟨m, ns⟩
      · simp only [ne_eq, not_true_eq_false, false_and, if_false, List.sum_cons, List.sum_nil,
          Nat.cast_add, Nat.cast_zero, add_zero]
        rw [if_neg (by rintro ⟨-, h'⟩; exact h (by linarith))]
      · simp only [ne_eq, reduceCtorEq, not_false_eq_true, true_and, List.sum_cons, Nat.cast_add]
        congr 1
        apply propext
        constructor <;> intro <;> linarith

/-- **`synthDone` is called once, in the first call that reaches the duration.** Take a
`DoneAfter` built for `seconds` at `sampleRate`, and any sequence of `process` calls with frame
counts `n₁, n₂, …`, computed over exact rationals. Call `k` calls `World::synthDone` exactly
when it is the first whose running total `n₁ + … + nₖ` reaches `seconds * sampleRate`. So
`synthDone` is called once if the total ever reaches it, in that call, and never again; and
never if the total stays below. -/
theorem doneAfter_calls_synthDone_once (seconds sampleRate : ℚ) (ns : List Nat) :
    (construct seconds sampleRate).run ns =
        (List.range ns.length).map (firstToReach (seconds * sampleRate) ns) ∧
      ((construct seconds sampleRate).run ns).count true =
        if ns ≠ [] ∧ seconds * sampleRate ≤ (ns.sum : ℚ) then 1 else 0 :=
  ⟨run_not_done _ ns, count_run_not_done _ ns⟩

end DoneAfter

end Methcla
