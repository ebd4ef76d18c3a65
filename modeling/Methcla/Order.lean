import Methcla.RequestIds
/-!
The order in which scheduled requests get Phase B (`Engine.cpp`: `ScheduleItem::operator<`,
`Scheduler`, `processScheduler`).

`processScheduler` only ever dispatches the top of the queue, and the top is the item that
pops first (`Scheduler.top_popsBefore`): the earliest time, and among equal times the first
pushed. So of two queued requests, the one that pops first gets all its Phase-B entries
before the other gets any, however the blocks, sends and failures in between go
(`scheduled_requests_dispatch_in_order`). Two facts make this more than the heap's law: a
dispatch logs Phase-B entries of its own request only (`GrowsFor`), and no request still to
come carries either number (`Numbered`).
-/

set_option autoImplicit false

namespace Methcla

/-- The request a Phase-B entry was made for; `none` for every other event. -/
def Event.phaseBRid : Event → Option Nat
  | .phaseB rid _ _ => some rid
  | _ => none

/-- Every Phase-B entry of request `r₁` comes before every Phase-B entry of request `r₂`: the
trace splits into a part with no entry of `r₂` and a part with no entry of `r₁`. -/
def PhaseBOrdered (r₁ r₂ : Nat) (trace : List Event) : Prop :=
  ∃ T₁ T₂, trace = T₁ ++ T₂ ∧ (∀ e ∈ T₁, e.phaseBRid ≠ some r₂) ∧ ∀ e ∈ T₂, e.phaseBRid ≠ some r₁

namespace PhaseBOrdered

variable {r₁ r₂ : Nat} {T D : List Event}

theorem of_none (h : ∀ e ∈ T, e.phaseBRid ≠ some r₂) : PhaseBOrdered r₁ r₂ T :=
  ⟨T, [], (List.append_nil T).symm, h, nofun⟩

theorem append (h : PhaseBOrdered r₁ r₂ T) (hD : ∀ e ∈ D, e.phaseBRid ≠ some r₁) :
    PhaseBOrdered r₁ r₂ (T ++ D) := by
  obtain ⟨T₁, T₂, rfl, h₁, h₂⟩ := h
  refine ⟨T₁, T₂ ++ D, List.append_assoc _ _ _, h₁, fun e he => ?_⟩
  rcases List.mem_append.1 he with he | he
  · exact h₂ e he
  · exact hD e he

end PhaseBOrdered

namespace Dispatcher

/-- The trace is `T` followed by events none of which is a Phase-B entry of a request other
than `rid`. -/
def GrowsFor (rid : Nat) (T : List Event) (d : Dispatcher) : Prop :=
  ∃ D, d.trace = T ++ D ∧ ∀ e ∈ D, e.phaseBRid = none ∨ e.phaseBRid = some rid

section GrowsFor

variable {rid : Nat} {T : List Event}

theorem GrowsFor.append {d : Dispatcher} (h : GrowsFor rid T d) {D' : List Event}
    (hD' : ∀ e ∈ D', e.phaseBRid = none ∨ e.phaseBRid = some rid) {d' : Dispatcher}
    (htrace : d'.trace = d.trace ++ D') : GrowsFor rid T d' := by
  obtain ⟨D, hD, hDr⟩ := h
  refine ⟨D ++ D', by rw [htrace, hD, List.append_assoc], fun e he => ?_⟩
  rcases List.mem_append.1 he with he | he
  · exact hDr e he
  · exact hD' e he

theorem growsFor_log {e : Event} (he : e.phaseBRid = none) : Keeps (GrowsFor rid T) (log e) :=
  fun d h => h.append (by simpa using .inl he) (d.record_trace e)

theorem growsFor_processMessageA (rid' : Nat) (msg : Osc.Message) :
    Keeps (GrowsFor rid T) (processMessageA rid' msg) :=
  fun d h => h.append (by simp [Event.phaseBRid]) (processMessageA_trace rid' msg d)

/-- Phase B of request `rid` logs no Phase-B entry of another request. -/
theorem growsFor_processMessageB (msg : Osc.Message) (scheduleTime currentTime : Time) :
    Keeps (GrowsFor rid T) (processMessageB rid msg scheduleTime currentTime) := fun d h => by
  rcases processMessageB_trace rid msg scheduleTime currentTime d with h' | ⟨_, _, _, h'⟩
  · exact h.append (by simp [Event.phaseBRid]) h'
  · exact h.append (by simp [Event.phaseBRid]) h'

end GrowsFor

end Dispatcher

namespace Environment

open Dispatcher

variable {α : Type}

theorem growsFor_processRequest (currentTime : Time) (rid : Nat) (p : Osc.Packet) (T : List Event) :
    Keeps (fun env : Environment α => GrowsFor rid T env.dispatcher)
      (processRequest currentTime (rid, p)) :=
  keeps_processRequest currentTime rid p (growsFor_processMessageA rid)
    (growsFor_processMessageB · currentTime currentTime) (fun _ => growsFor_log rfl)
    (fun _ => growsFor_log rfl) (fun _ => growsFor_log rfl)

/-! ## The invariant -/

section Order

variable (x y : ScheduleItem (Nat × Osc.Packet))

/-- While `x` is queued, so is `y`, and `y` has had no Phase-B entry; no request still to come
carries the number of `x` or of `y`, and no other scheduled item does; and every Phase-B entry
of `x` so far came before every one of `y`. -/
structure InOrder (pending : List (Nat × Osc.Packet)) (v : RequestView) : Prop where
  waiting_ne : ∀ a ∈ pending ++ v.requests, a.1 ≠ x.request.1 ∧ a.1 ≠ y.request.1
  x_lt : x.request.1 < v.nextRequest
  y_lt : y.request.1 < v.nextRequest
  only_x : ∀ q ∈ v.scheduler.queue, q.request.1 = x.request.1 → q = x
  only_y : ∀ q ∈ v.scheduler.queue, q.request.1 = y.request.1 → q = y
  y_waits : x ∈ v.scheduler.queue → y ∈ v.scheduler.queue ∧
    ∀ e ∈ v.trace, e.phaseBRid ≠ some y.request.1
  ordered : PhaseBOrdered x.request.1 y.request.1 v.trace

variable {x y} (hxy : x.time < y.time ∨ x.time = y.time ∧ x.seq < y.seq)

namespace InOrder

variable {pending : List (Nat × Osc.Packet)} {v : RequestView}

theorem drop {a : Nat × Osc.Packet} (h : InOrder x y (a :: pending) v) : InOrder x y pending v :=
  { h with waiting_ne := fun b hb => h.waiting_ne b (.tail _ hb) }

/-- Pushing the first request still to come, which carries neither number. -/
theorem push {a : Nat × Osc.Packet} {s : Scheduler (Nat × Osc.Packet)}
    (h : InOrder x y (a :: pending) v) (hs : v.scheduler.push (packetTime a.2) a = .ok s) :
    InOrder x y pending { v with scheduler := s } := by
  have ha := h.waiting_ne a (.head _)
  have hmem : ∀ q ∈ s.queue, q = ⟨packetTime a.2, v.scheduler.counter, a⟩ ∨ q ∈ v.scheduler.queue :=
    fun q hq => List.mem_cons.1 ((Scheduler.push_queue_perm hs).subset hq)
  refine { h.drop with only_x := fun q hq hqx => ?_, only_y := fun q hq hqy => ?_, y_waits := fun hx => ?_ }
  · rcases hmem q hq with rfl | hq
    · exact absurd hqx ha.1
    · exact h.only_x q hq hqx
  · rcases hmem q hq with rfl | hq
    · exact absurd hqy ha.2
    · exact h.only_y q hq hqy
  · rcases hmem x hx with hx' | hx
    · exact absurd (congrArg (·.request.1) hx').symm ha.1
    · obtain ⟨hy, hT⟩ := h.y_waits hx
      exact ⟨(Scheduler.push_queue_perm hs).symm.subset (.tail _ hy), hT⟩

/-- Events of request `r` appended to the trace: fine when `r` is the number of `x` only while
`x` is queued, and the number of `y` only once `x` is not. -/
theorem grow (h : InOrder x y pending v) {r : Nat} {D : List Event}
    (hD : ∀ e ∈ D, e.phaseBRid = none ∨ e.phaseBRid = some r)
    (hx : r = x.request.1 → x ∈ v.scheduler.queue) (hy : r = y.request.1 → x ∉ v.scheduler.queue)
    {trace : List Event} (htrace : trace = v.trace ++ D) :
    InOrder x y pending { v with trace := trace } := by
  subst htrace
  have hDy : x ∈ v.scheduler.queue → ∀ e ∈ D, e.phaseBRid ≠ some y.request.1 := fun hxq e he hey => by
    rcases hD e he with h' | h' <;> rw [hey] at h'
    · cases h'
    · exact hy (Option.some.inj h').symm hxq
  refine { h with y_waits := fun hxq => ⟨(h.y_waits hxq).1, fun e he => ?_⟩, ordered := ?_ }
  · rcases List.mem_append.1 he with he | he
    · exact (h.y_waits hxq).2 e he
    · exact hDy hxq e he
  · by_cases hr : r = x.request.1
    · have hxq := hx hr
      refine PhaseBOrdered.of_none fun e he => ?_
      rcases List.mem_append.1 he with he | he
      · exact (h.y_waits hxq).2 e he
      · exact hDy hxq e he
    · refine h.ordered.append fun e he hex => ?_
      rcases hD e he with h' | h' <;> rw [hex] at h'
      · cases h'
      · exact hr (Option.some.inj h').symm

include hxy in
theorem pop (h : InOrder x y [] v) : InOrder x y [] { v with scheduler := v.scheduler.pop } := by
  refine { h with only_x := fun q hq => h.only_x q (List.mem_of_mem_tail hq),
                  only_y := fun q hq => h.only_y q (List.mem_of_mem_tail hq),
                  y_waits := fun hx => ?_ }
  obtain ⟨hy, hT⟩ := h.y_waits (List.mem_of_mem_tail hx)
  refine ⟨?_, hT⟩
  have htop := Scheduler.top_ne_of_popsBefore (List.mem_of_mem_tail hx)
    ((ScheduleItem.popsBefore_iff x y).2 hxy)
  rcases hq : v.scheduler.queue with _ | ⟨q, rest⟩
  · rw [hq] at hy; cases hy
  · rw [hq] at hy
    rcases List.mem_cons.1 hy with rfl | hy
    · exact absurd (by simp [Scheduler.top?, hq]) htop
    · simpa [hq] using hy

end InOrder

include hxy in
theorem inOrder_invariant : EngineInvariant (InOrder x y) where
  send v packet h := by
    refine { h with waiting_ne := fun a ha => ?_, x_lt := Nat.lt_succ_of_lt h.x_lt,
                    y_lt := Nat.lt_succ_of_lt h.y_lt }
    rcases (by simpa using ha : a ∈ v.requests ∨ a = (v.nextRequest, packet)) with ha | rfl
    · exact h.waiting_ne a ha
    · exact ⟨(Nat.ne_of_lt h.x_lt).symm, (Nat.ne_of_lt h.y_lt).symm⟩
  drain v h := { h with waiting_ne := fun a ha => h.waiting_ne a (by simpa using ha) }
  request currentTime a pending env h := by
    obtain ⟨rid, p⟩ := a
    have ha := h.waiting_ne _ (.head _)
    obtain ⟨D, hD, hDr⟩ := growsFor_processRequest currentTime rid p env.dispatcher.trace env
      ⟨[], (List.append_nil _).symm, nofun⟩
    obtain ⟨d, hrun | ⟨s, hs, hrun⟩⟩ := processRequest_run currentTime rid p env <;>
      rw [hrun, endState_ok] at hD ⊢
    · exact h.drop.grow hDr (fun hr => absurd hr ha.1) (fun hr => absurd hr ha.2) hD
    · exact (h.push hs).grow hDr (fun hr => absurd hr ha.1) (fun hr => absurd hr ha.2) hD
  round currentTime item env htop h := by
    rw [endState_dispatch]
    obtain ⟨D, hD, hDr⟩ := keeps_processPacketB item.request.1
      (growsFor_processMessageB (T := env.dispatcher.trace) · item.time currentTime) item.request.2
      env.dispatcher ⟨[], (List.append_nil _).symm, nofun⟩
    have hq : item ∈ env.scheduler.queue := List.mem_of_mem_head? htop
    exact h.grow hDr (fun hr => h.only_x item hq hr ▸ hq)
      (fun hr hx => Scheduler.top_ne_of_popsBefore hx ((ScheduleItem.popsBefore_iff x y).2 hxy)
        (h.only_y item hq hr ▸ htop)) hD
  pop _ h := h.pop hxy

end Order

/-- **Scheduled requests get Phase B in the order they pop.** Take two requests waiting in the
scheduler of an engine a run reached: `x` with the earlier time, or the same time and pushed
first, and `y` with no Phase-B entry yet. However the run goes on, every Phase-B entry of `x`
comes before every Phase-B entry of `y`. -/
theorem scheduled_requests_dispatch_in_order [Add α] [Zero α] {options : Options}
    {data : Bus → Buffer α} {env : Environment α} (h : new options data = .ok env)
    (inputs more : List (Input α)) {x y : ScheduleItem (Nat × Osc.Packet)}
    (hx : x ∈ (env.run inputs).scheduler.queue) (hy : y ∈ (env.run inputs).scheduler.queue)
    (hxy : x.time < y.time ∨ x.time = y.time ∧ x.seq < y.seq)
    (hy₀ : ∀ e ∈ (env.run inputs).dispatcher.trace, e.phaseBRid ≠ some y.request.1) :
    ∃ T₁ T₂, ((env.run inputs).run more).dispatcher.trace = T₁ ++ T₂ ∧
      (∀ e ∈ T₁, e.phaseBRid ≠ some y.request.1) ∧ ∀ e ∈ T₂, e.phaseBRid ≠ some x.request.1 := by
  have hn := requests_numbered_run h inputs
  have h₀ : InOrder x y [] (env.run inputs).view :=
    { waiting_ne := fun a ha => ⟨(hn.queued_lt_waiting x hx a ha).ne', (hn.queued_lt_waiting y hy a ha).ne'⟩
      x_lt := hn.queued_lt x hx
      y_lt := hn.queued_lt y hy
      only_x := fun q hq hqx => hn.eq_of_rid_eq hq hx hqx
      only_y := fun q hq hqy => hn.eq_of_rid_eq hq hy hqy
      y_waits := fun _ => ⟨hy, hy₀⟩
      ordered := PhaseBOrdered.of_none hy₀ }
  exact ((inOrder_invariant hxy).run h₀ more).ordered


/-- Two bundles of `/node/free 7`, for the times `0` and `2 / 2^32`, sent before a block that
ends before either is due: both wait in the scheduler, the first one ahead. -/
theorem scheduled_requests_dispatch_in_order_two :
    Environment.new (α := Int) ⟨48000, 64, 0, 0, 16, 0, 1024⟩ (fun _ _ => 0) =
        .ok (init ⟨48000, 64, 0, 0, 16, 0, 1024⟩ (fun _ _ => 0)
          ⟨16, [rootGroup], List.nodup_singleton _⟩) ∧
      (⟨methcla_time_from_uint64 0, 0, (0, .bundle 0 [.message ⟨"/node/free", [.int32 7]⟩])⟩ :
        ScheduleItem (Nat × Osc.Packet)) ∈
        ((init (α := Int) ⟨48000, 64, 0, 0, 16, 0, 1024⟩ (fun _ _ => 0)
          ⟨16, [rootGroup], List.nodup_singleton _⟩).run
        [.send (.bundle 0 [.message ⟨"/node/free", [.int32 7]⟩]),
          .send (.bundle 2 [.message ⟨"/node/free", [.int32 7]⟩]),
          .process (-1) 64 (fun _ _ => 0) (fun _ _ => 0) []]).scheduler.queue ∧
      (⟨methcla_time_from_uint64 2, 1, (1, .bundle 2 [.message ⟨"/node/free", [.int32 7]⟩])⟩ :
        ScheduleItem (Nat × Osc.Packet)) ∈
        ((init (α := Int) ⟨48000, 64, 0, 0, 16, 0, 1024⟩ (fun _ _ => 0)
          ⟨16, [rootGroup], List.nodup_singleton _⟩).run
        [.send (.bundle 0 [.message ⟨"/node/free", [.int32 7]⟩]),
          .send (.bundle 2 [.message ⟨"/node/free", [.int32 7]⟩]),
          .process (-1) 64 (fun _ _ => 0) (fun _ _ => 0) []]).scheduler.queue ∧
      (methcla_time_from_uint64 0 < methcla_time_from_uint64 2 ∨
        methcla_time_from_uint64 0 = methcla_time_from_uint64 2 ∧ 0 < 1) ∧
      (∀ e ∈ ((init (α := Int) ⟨48000, 64, 0, 0, 16, 0, 1024⟩ (fun _ _ => 0)
          ⟨16, [rootGroup], List.nodup_singleton _⟩).run
        [.send (.bundle 0 [.message ⟨"/node/free", [.int32 7]⟩]),
          .send (.bundle 2 [.message ⟨"/node/free", [.int32 7]⟩]),
          .process (-1) 64 (fun _ _ => 0) (fun _ _ => 0) []]).dispatcher.trace,
        e.phaseBRid ≠ some 1) ∧
      ∃ T₁ T₂, (((init (α := Int) ⟨48000, 64, 0, 0, 16, 0, 1024⟩ (fun _ _ => 0)
          ⟨16, [rootGroup], List.nodup_singleton _⟩).run
        [.send (.bundle 0 [.message ⟨"/node/free", [.int32 7]⟩]),
          .send (.bundle 2 [.message ⟨"/node/free", [.int32 7]⟩]),
          .process (-1) 64 (fun _ _ => 0) (fun _ _ => 0) []]).run
          [.process 0 64 (fun _ _ => 0) (fun _ _ => 0) []]).dispatcher.trace = T₁ ++ T₂ ∧
        (∀ e ∈ T₁, e.phaseBRid ≠ some 1) ∧ ∀ e ∈ T₂, e.phaseBRid ≠ some 0 := by
  have h : Environment.new (α := Int) ⟨48000, 64, 0, 0, 16, 0, 1024⟩ (fun _ _ => 0) =
      .ok (init ⟨48000, 64, 0, 0, 16, 0, 1024⟩ (fun _ _ => 0)
        ⟨16, [rootGroup], List.nodup_singleton _⟩) := rfl
  -- The drain: Phase A of each bundle answers `true`, and each is pushed.
  obtain ⟨e₂, hreq, hq, htrace, hsr⟩ : ∃ e₂ : Environment Int,
      ([(0, .bundle 0 [.message ⟨"/node/free", [.int32 7]⟩]),
          (1, .bundle 2 [.message ⟨"/node/free", [.int32 7]⟩])].forM (processRequest (-1))).run
        { ((init (α := Int) ⟨48000, 64, 0, 0, 16, 0, 1024⟩ (fun _ _ => 0)
          ⟨16, [rootGroup], List.nodup_singleton _⟩).send
            (.bundle 0 [.message ⟨"/node/free", [.int32 7]⟩])).send
            (.bundle 2 [.message ⟨"/node/free", [.int32 7]⟩]) with requests := [] } = .ok () e₂ ∧
      e₂.scheduler.queue =
        [⟨methcla_time_from_uint64 0, 0, (0, .bundle 0 [.message ⟨"/node/free", [.int32 7]⟩])⟩,
          ⟨methcla_time_from_uint64 2, 1, (1, .bundle 2 [.message ⟨"/node/free", [.int32 7]⟩])⟩] ∧
      (∀ e ∈ e₂.dispatcher.trace, e.phaseBRid ≠ some 1) ∧ e₂.dispatcher.sampleRate = 48000 :=
    ⟨_, (run_bind_ok (processRequest_of_push_ok (by with_unfolding_all rfl) (by rfl)
        (by with_unfolding_all rfl)) _).trans
      ((run_bind_ok (processRequest_of_push_ok (by with_unfolding_all rfl) (by rfl)
        (by with_unfolding_all rfl)) _).trans rfl),
      by with_unfolding_all rfl, by with_unfolding_all decide, by with_unfolding_all rfl⟩
  -- Neither is due by the block's end.
  have hsched : (processScheduler (-1) (-1 + (64 : Nat) / e₂.dispatcher.sampleRate)).run e₂ =
      .ok () e₂ := by
    show (processScheduler.loop _ _ e₂.scheduler.queue.length).run e₂ = _
    rw [hq]
    refine processScheduler_loop_stop fun item htop => ?_
    rw [Scheduler.top?, hq] at htop
    cases htop
    rw [hsr]
    with_unfolding_all decide
  have hrun : ((init (α := Int) ⟨48000, 64, 0, 0, 16, 0, 1024⟩ (fun _ _ => 0)
          ⟨16, [rootGroup], List.nodup_singleton _⟩).run
        [.send (.bundle 0 [.message ⟨"/node/free", [.int32 7]⟩]),
          .send (.bundle 2 [.message ⟨"/node/free", [.int32 7]⟩]),
          .process (-1) 64 (fun _ _ => 0) (fun _ _ => 0) []]) =
      advanceEpoch (zeroOutputs 64 (processGraph 64 []
        (connectBuses (fun _ _ => 0) (fun _ _ => 0) (performWorker e₂)))) := by
    simp only [run, List.foldl, step]
    rw [process_of_ok ((run_processRequests (-1)
      (((init (α := Int) ⟨48000, 64, 0, 0, 16, 0, 1024⟩ (fun _ _ => 0)
          ⟨16, [rootGroup], List.nodup_singleton _⟩).send
        (.bundle 0 [.message ⟨"/node/free", [.int32 7]⟩])).send
        (.bundle 2 [.message ⟨"/node/free", [.int32 7]⟩]))).trans hreq) hsched, endState_ok]
  refine ⟨h, ?hx, ?hy, .inl (by with_unfolding_all decide), ?hy₀,
    scheduled_requests_dispatch_in_order h _ _ ?hx ?hy (.inl (by with_unfolding_all decide)) ?hy₀⟩
  all_goals rw [hrun]
  case hy₀ => exact htrace
  all_goals show _ ∈ e₂.scheduler.queue; simp [hq]

end Environment

end Methcla
