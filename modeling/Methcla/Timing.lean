import Methcla.Block
import Mathlib.Data.Nat.Cast.Order.Ring
import Mathlib.Algebra.Order.Field.Basic
import Mathlib.Tactic.NormNum.Pow
/-!
When Phase B runs, and with which `scheduleTime` (`Engine.cpp`: `processRequests`,
`processScheduler`, the Phase-B `processBundle` and the Phase-B `/synth/new` branch).

Two times reach Phase B: `processRequests` passes `currentTime`, the block's start, for a
message and for a bundle with time tag `1`; `processScheduler` passes the time of the item it
popped. `/synth/new` activates its synth at `(scheduleTime - currentTime) * sampleRate`.

Neither path looks at anything else. `processRequests` pushes any other bundle whatever its
time, also one already in the past, and `processScheduler` pops every item up to the block's
end, also one before its start: a late bundle's `/synth/new` is activated at a negative offset
(`late_bundle_activates_at_negative_offset`).

The Phase-B `processBundle` flattens nested bundles ("NOTE: Nested bundles are flattened"):
it hands a nested bundle the `scheduleTime` it was given itself. So every message of a bundle
tree gets Phase B when the outermost bundle does, with the outermost bundle's time: the
block's start for an immediate bundle, the bundle's own time, whenever it is due, for a
scheduled one (`nested_bundles_dispatched_at_outer_time`). No nested time tag is read, and a
nested bundle for a later time is dispatched early (`nested_bundle_time_not_read`).

Times are compared, never computed with, in these results: the scheduled case holds for every
`nextTime` the item is due by, however the block computes it.
-/

set_option autoImplicit false

namespace Methcla

namespace Environment

open Dispatcher

variable {α : Type}

/-- **A late bundle activates its synth at a negative offset.** Take any engine state with
nothing scheduled and room for one push, and one drained bundle whose time tag is not `1` but
names a time before the block's start. When Phase A answered `true` for its `/synth/new` and
registered the synth, the block pushes the bundle, finds it due (it is before the block's
end) and activates the synth at `(scheduleTime - currentTime) * sampleRate`, which is below
`0`. -/
theorem late_bundle_activates_at_negative_offset [Add α] [Zero α] (env : Environment α)
    (currentTime : Time) (numFrames : Nat) (inputs outputs : Nat → Buffer α)
    (graph : List (BusOp Bus α)) {rid : Nat} {time : UInt64} {msg : Osc.Message}
    {d₁ : Dispatcher} {node : Node} {s : Synth}
    (hreq : env.requests = [(rid, .bundle time [.message msg])]) (hq : env.scheduler.queue = [])
    (hmax : 0 < env.scheduler.maxSize) (ht : time ≠ 1)
    (hlate : methcla_time_from_uint64 time < currentTime) (hsr : 0 < env.dispatcher.sampleRate)
    (hA : (processPacketA rid (.bundle time [.message msg])).run env.dispatcher = .ok true d₁)
    (hmsg : msg.address = "/synth/new") (hid : synthNewNodeId msg.args = some node.id)
    (hl : d₁.nodes.lookup node.id = some node) (hk : node.kind = .synth s) :
    ∃ env', (process currentTime numFrames inputs outputs graph).run env = .ok () env' ∧
      env'.dispatcher.trace = d₁.trace ++ [.phaseADone rid true,
        .pushed rid (methcla_time_from_uint64 time), .phaseB rid msg (methcla_time_from_uint64 time),
        .activate node.id node.inst
          ((methcla_time_from_uint64 time - currentTime) * env.dispatcher.sampleRate)] ∧
      (methcla_time_from_uint64 time - currentTime) * env.dispatcher.sampleRate < 0 := by
  have hsr₁ : d₁.sampleRate = env.dispatcher.sampleRate :=
    ((sampleRate_invariant _).packetA rid _).run_state rfl hA
  obtain ⟨S, hs, hS⟩ := Scheduler.push_of_empty hq hmax (methcla_time_from_uint64 time)
    (rid, .bundle time [.message msg])
  have hdue : methcla_time_from_uint64 time ≤ currentTime + numFrames / d₁.sampleRate := by
    rw [hsr₁]
    exact le_add_of_le_of_nonneg hlate.le (div_nonneg (Nat.cast_nonneg _) hsr.le)
  -- Phase B of the popped bundle is Phase B of its one message.
  refine ⟨_, process_of_ok (processRequests_single hreq
      (processRequest_of_push_ok hA (by simpa [immediate] using ht) hs))
    (processScheduler_single hS hdue (by
      rw [processPacketB_eq]
      exact run_bind_ok (processMessageB_synthNew (d := (d₁.record (.phaseADone rid true)).record
        (.pushed rid (methcla_time_from_uint64 time))) hmsg hid hl hk) _)), ?_,
    mul_neg_of_neg_of_pos (sub_neg.2 hlate) hsr⟩
  show d₁.trace ++ [_] ++ [_] ++ [_, .activate node.id node.inst
    ((methcla_time_from_uint64 time - currentTime) * d₁.sampleRate)] = _
  rw [hsr₁]
  simp

theorem late_bundle_activates_at_negative_offset_sine :
    ∃ env', (process 1 64 (fun _ _ => 0) (fun _ _ => 0) []).run
        (((init (α := Int) ⟨48000, 64, 0, 2, 16, 16, 1024⟩ (fun _ _ => 0)
          ⟨16, [rootGroup], List.nodup_singleton _⟩).registerSynthDef ⟨"sine", 0, 0, 1, 0⟩).send
          (.bundle 0 [.message ⟨"/synth/new", [.string "sine", .int32 1, .int32 0, .int32 0]⟩])) =
        .ok () env' ∧
      .activate 1 1 (-48000) ∈ env'.dispatcher.trace := by
  obtain ⟨d₁, node, s, hA, hl, hk, hid, hinst⟩ : ∃ d₁ node s,
      (processPacketA 0 (.bundle 0 [.message ⟨"/synth/new", [.string "sine", .int32 1, .int32 0, .int32 0]⟩])).run
        ((init (α := Int) ⟨48000, 64, 0, 2, 16, 16, 1024⟩ (fun _ _ => 0)
          ⟨16, [rootGroup], List.nodup_singleton _⟩).registerSynthDef ⟨"sine", 0, 0, 1, 0⟩).dispatcher =
        .ok true d₁ ∧ d₁.nodes.lookup 1 = some node ∧ node.kind = .synth s ∧ node.id = 1 ∧ node.inst = 1 :=
    ⟨_, _, _, by with_unfolding_all rfl, by with_unfolding_all rfl, rfl, by with_unfolding_all rfl,
      by with_unfolding_all rfl⟩
  rw [← hid] at hl
  obtain ⟨env', hrun, htrace, -⟩ := late_bundle_activates_at_negative_offset
    (((init (α := Int) ⟨48000, 64, 0, 2, 16, 16, 1024⟩ (fun _ _ => 0)
      ⟨16, [rootGroup], List.nodup_singleton _⟩).registerSynthDef ⟨"sine", 0, 0, 1, 0⟩).send
      (.bundle 0 [.message ⟨"/synth/new", [.string "sine", .int32 1, .int32 0, .int32 0]⟩]))
    1 64 _ _ [] rfl rfl (by decide) (by decide) (by simp [methcla_time_from_uint64])
    (show (0 : Time) < 48000 by decide) hA rfl (by rw [hid]; rfl) hl hk
  refine ⟨env', hrun, ?_⟩
  rw [htrace, hid, hinst]
  simp [methcla_time_from_uint64, registerSynthDef, send, init, kQueueSize]

/-- **Nested bundles are dispatched at the outer bundle's time.** Take any engine state with
nothing scheduled, and one drained bundle, with any time tag, that nests bundles with any
time tags, and which Phase A answered `true` for. If its time tag is `1`, the block dispatches
every message of the tree at once, each with the block's start as its `scheduleTime`. Any
other time tag, the bundle is pushed for the time it names, and a `processScheduler` whose
`nextTime` that time is due by dispatches every message of the tree with that time. Either
way nothing stays scheduled and no nested time tag is read. -/
theorem nested_bundles_dispatched_at_outer_time [Add α] [Zero α] (env : Environment α)
    (currentTime : Time) {rid : Nat} {time : UInt64} {elems : List Osc.Packet} {d₁ : Dispatcher}
    (hreq : env.requests = [(rid, .bundle time elems)]) (hq : env.scheduler.queue = [])
    (hA : (processPacketA rid (.bundle time elems)).run env.dispatcher = .ok true d₁) :
    (time = 1 → ∀ (numFrames : Nat) (inputs outputs : Nat → Buffer α) (graph : List (BusOp Bus α))
      (d₂ : Dispatcher), (processPacketB rid currentTime currentTime (.bundle time elems)).run
        (d₁.record (.phaseADone rid true)) = .ok () d₂ →
      ∃ env', (process currentTime numFrames inputs outputs graph).run env = .ok () env' ∧
        env'.dispatcher.trace.filter Event.isRouting = d₁.trace.filter Event.isRouting ++
          .phaseADone rid true :: (Osc.Packet.messagesOf elems).map (.phaseB rid · currentTime) ∧
        env'.scheduler.queue = []) ∧
    (time ≠ 1 → 0 < env.scheduler.maxSize → ∀ (nextTime : Time) (d₂ : Dispatcher),
      methcla_time_from_uint64 time ≤ nextTime →
      (processPacketB rid (methcla_time_from_uint64 time) currentTime (.bundle time elems)).run
        ((d₁.record (.phaseADone rid true)).record (.pushed rid (methcla_time_from_uint64 time))) =
          .ok () d₂ →
      ∃ e₁ e₂, (processRequests currentTime).run env = .ok () e₁ ∧
        (processScheduler currentTime nextTime).run e₁ = .ok () e₂ ∧
        e₂.dispatcher.trace.filter Event.isRouting = d₁.trace.filter Event.isRouting ++
          .phaseADone rid true :: .pushed rid (methcla_time_from_uint64 time) ::
            (Osc.Packet.messagesOf elems).map (.phaseB rid · (methcla_time_from_uint64 time)) ∧
        e₂.scheduler.queue = []) := by
  refine ⟨?immediate, ?scheduled⟩
  case immediate =>
    rintro rfl numFrames inputs outputs graph d₂ hB
    obtain ⟨env', hrun, htrace⟩ :=
      process_single_immediate env currentTime numFrames inputs outputs graph hreq hq rfl hA hB
    refine ⟨env', hrun, ?_, ?_⟩
    · rw [htrace, routing_processPacketB hB]
      simp [Dispatcher.record, Event.isRouting, phaseBEntries]
    · rw [process_of_ok (processRequests_single hreq (processRequest_of_phaseB_ok hA rfl hB))
        (processScheduler_nil (show ({ env with requests := [], dispatcher := d₂ } :
          Environment α).scheduler.queue = [] from hq) _ _)] at hrun
      cases hrun
      exact hq
  case scheduled =>
    intro ht hmax nextTime d₂ hdue hB
    obtain ⟨S, hs, hS⟩ := Scheduler.push_of_empty hq hmax (methcla_time_from_uint64 time)
      (rid, .bundle time elems)
    refine ⟨_, _, processRequests_single hreq
        (processRequest_of_push_ok hA (by simpa [immediate] using ht) hs),
      processScheduler_single hS hdue hB, ?_, by simp [hS]⟩
    show d₂.trace.filter Event.isRouting = _
    rw [routing_processPacketB hB]
    simp [Dispatcher.record, Event.isRouting, phaseBEntries, packetTime]

theorem nested_bundles_dispatched_at_outer_time_free :
    (∃ env', (process 0 64 (fun _ _ => 0) (fun _ _ => 0) []).run
        ((init (α := Int) ⟨48000, 64, 0, 0, 16, 0, 1024⟩ (fun _ _ => 0)
          ⟨16, [rootGroup], List.nodup_singleton _⟩).send
          (.bundle 1 [.bundle 42949672960 [.message ⟨"/node/free", [.int32 7]⟩]])) = .ok () env' ∧
      env'.dispatcher.trace.filter Event.isRouting =
        [.phaseADone 0 true, .phaseB 0 ⟨"/node/free", [.int32 7]⟩ 0] ∧
      env'.scheduler.queue = []) ∧
    ∃ e₁ e₂, (processRequests 0).run
        ((init (α := Int) ⟨48000, 64, 0, 0, 16, 0, 1024⟩ (fun _ _ => 0)
          ⟨16, [rootGroup], List.nodup_singleton _⟩).send
          (.bundle 4294967296 [.bundle 42949672960 [.message ⟨"/node/free", [.int32 7]⟩]])) =
        .ok () e₁ ∧
      (processScheduler 0 1).run e₁ = .ok () e₂ ∧
      e₂.dispatcher.trace.filter Event.isRouting =
        [.phaseADone 0 true, .pushed 0 1, .phaseB 0 ⟨"/node/free", [.int32 7]⟩ 1] ∧
      e₂.scheduler.queue = [] := by
  have h₁ : methcla_time_from_uint64 4294967296 = 1 := by simp [methcla_time_from_uint64]; norm_num
  obtain ⟨d₁, d₂, d₁', d₂', hA, hB, hA', hB', h₀, h₀'⟩ : ∃ d₁ d₂ d₁' d₂',
      (processPacketA 0 (.bundle 1 [.bundle 42949672960 [.message ⟨"/node/free", [.int32 7]⟩]])).run
        (init (α := Int) ⟨48000, 64, 0, 0, 16, 0, 1024⟩ (fun _ _ => 0)
          ⟨16, [rootGroup], List.nodup_singleton _⟩).dispatcher = .ok true d₁ ∧
      (processPacketB 0 0 0 (.bundle 1 [.bundle 42949672960 [.message ⟨"/node/free", [.int32 7]⟩]])).run
        (d₁.record (.phaseADone 0 true)) = .ok () d₂ ∧
      (processPacketA 0 (.bundle 4294967296
          [.bundle 42949672960 [.message ⟨"/node/free", [.int32 7]⟩]])).run
        (init (α := Int) ⟨48000, 64, 0, 0, 16, 0, 1024⟩ (fun _ _ => 0)
          ⟨16, [rootGroup], List.nodup_singleton _⟩).dispatcher = .ok true d₁' ∧
      (processPacketB 0 (methcla_time_from_uint64 4294967296) 0
          (.bundle 4294967296 [.bundle 42949672960 [.message ⟨"/node/free", [.int32 7]⟩]])).run
        ((d₁'.record (.phaseADone 0 true)).record (.pushed 0 (methcla_time_from_uint64 4294967296))) =
          .ok () d₂' ∧
      d₁.trace.filter Event.isRouting = [] ∧ d₁'.trace.filter Event.isRouting = [] :=
    ⟨_, _, _, _, by with_unfolding_all rfl, by with_unfolding_all rfl, by with_unfolding_all rfl,
      by with_unfolding_all rfl, by with_unfolding_all rfl, by with_unfolding_all rfl⟩
  refine ⟨?_, ?_⟩
  · obtain ⟨env', hrun, htrace, hq⟩ := (nested_bundles_dispatched_at_outer_time
      ((init (α := Int) ⟨48000, 64, 0, 0, 16, 0, 1024⟩ (fun _ _ => 0)
        ⟨16, [rootGroup], List.nodup_singleton _⟩).send
        (.bundle 1 [.bundle 42949672960 [.message ⟨"/node/free", [.int32 7]⟩]])) 0 rfl rfl hA).1
      rfl 64 _ _ [] d₂ hB
    exact ⟨env', hrun, by rw [htrace, h₀]; rfl, hq⟩
  · obtain ⟨e₁, e₂, hreq, hsched, htrace, hq⟩ := (nested_bundles_dispatched_at_outer_time
      ((init (α := Int) ⟨48000, 64, 0, 0, 16, 0, 1024⟩ (fun _ _ => 0)
        ⟨16, [rootGroup], List.nodup_singleton _⟩).send
        (.bundle 4294967296 [.bundle 42949672960 [.message ⟨"/node/free", [.int32 7]⟩]])) 0 rfl rfl
      hA').2 (by decide) (by decide) 1 d₂' h₁.le hB'
    exact ⟨e₁, e₂, hreq, hsched, by rw [htrace, h₀', h₁]; rfl, hq⟩

/-- At the engine just built, an immediate bundle holding a bundle for 10 s that holds
`/node/free 7`: the first block dispatches `/node/free 7` with `scheduleTime` 0, before the
time of the bundle around it. -/
theorem nested_bundle_time_not_read :
    ∃ env', (process 0 64 (fun _ _ => 0) (fun _ _ => 0) []).run
        ((init (α := Int) ⟨48000, 64, 0, 0, 16, 0, 1024⟩ (fun _ _ => 0)
          ⟨16, [rootGroup], List.nodup_singleton _⟩).send
          (.bundle 1 [.bundle 42949672960 [.message ⟨"/node/free", [.int32 7]⟩]])) = .ok () env' ∧
      env'.dispatcher.trace.filter Event.isRouting =
        [.phaseADone 0 true, .phaseB 0 ⟨"/node/free", [.int32 7]⟩ 0] ∧
      (0 : Time) < methcla_time_from_uint64 42949672960 := by
  obtain ⟨d₁, d₂, hA, hB, h₀⟩ : ∃ d₁ d₂,
      (processPacketA 0 (.bundle 1 [.bundle 42949672960 [.message ⟨"/node/free", [.int32 7]⟩]])).run
        (init (α := Int) ⟨48000, 64, 0, 0, 16, 0, 1024⟩ (fun _ _ => 0)
          ⟨16, [rootGroup], List.nodup_singleton _⟩).dispatcher = .ok true d₁ ∧
      (processPacketB 0 0 0 (.bundle 1 [.bundle 42949672960 [.message ⟨"/node/free", [.int32 7]⟩]])).run
        (d₁.record (.phaseADone 0 true)) = .ok () d₂ ∧
      d₂.trace.filter Event.isRouting = [.phaseADone 0 true, .phaseB 0 ⟨"/node/free", [.int32 7]⟩ 0] :=
    ⟨_, _, by with_unfolding_all rfl, by with_unfolding_all rfl, by with_unfolding_all rfl⟩
  obtain ⟨env', hrun, htrace⟩ := process_single_immediate
    ((init (α := Int) ⟨48000, 64, 0, 0, 16, 0, 1024⟩ (fun _ _ => 0)
      ⟨16, [rootGroup], List.nodup_singleton _⟩).send
      (.bundle 1 [.bundle 42949672960 [.message ⟨"/node/free", [.int32 7]⟩]]))
    0 64 _ _ [] rfl rfl rfl hA hB
  exact ⟨env', hrun, by rw [htrace, h₀],
    div_pos (Nat.cast_pos.2 (by decide)) (by norm_num)⟩

end Environment

end Methcla
