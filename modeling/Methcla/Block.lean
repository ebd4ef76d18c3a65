import Methcla.Routing
/-!
How a block routes every request (`Engine.cpp`: `processRequests`, `processScheduler`,
`process`).

Take a block that returns, in a run in which no exception reached `processRequests`' `catch`.
The routing part of its trace (`Event.isRouting`: Phase A's answers, Phase-B entries, pushes)
grows by exactly this (`block_routes_requests`): for each drained request in turn, Phase A's
answer, then either its messages' Phase-B entries at the block's start (a message, or a bundle
with time tag 1), or its push (any other bundle), or nothing (Phase A answered `false`); then,
for each item of the scheduler due by the block's end, in queue order, its messages' Phase-B
entries at the item's time. The due items leave the scheduler and the others stay.

The scheduler's part is `processScheduler_loop_routing`: the `while` pops exactly the item it
dispatched, and stops at the first item that is not due; since the queue is sorted by time,
every item left is not due.

What reaches `processRequests`' `catch` is only printed. A push onto a full scheduler is one
such exception: the request is dropped, and no `replyError` tells the client
(`push_overflow_not_replied`).
-/

set_option autoImplicit false

namespace Methcla

/-- Whether an event shows how a request was routed: Phase A's answer, a Phase-B entry, or a
push onto the scheduler. -/
def Event.isRouting : Event → Bool
  | .phaseADone .. | .phaseB .. | .pushed .. => true
  | _ => false

/-- Whether an event is an exception `processRequests` caught. -/
def Event.isUnhandled : Event → Bool
  | .unhandled _ => true
  | _ => false

namespace Environment

open Dispatcher

variable {α : Type}

/-- The Phase-B entries of a packet's messages, for request `rid` at `scheduleTime`. -/
def phaseBEntries (rid : Nat) (scheduleTime : Time) (p : Osc.Packet) : List Event :=
  p.messages.map (.phaseB rid · scheduleTime)

/-- The routing a drained request shows, given Phase A's answer. -/
def requestRouting (currentTime : Time) : Nat × Osc.Packet → Bool → List Event
  | (rid, p), needsScheduling =>
    .phaseADone rid needsScheduling ::
      if needsScheduling then
        if immediate p then phaseBEntries rid currentTime p else [.pushed rid (packetTime p)]
      else []

/-- The drained requests the drain pushes: those Phase A answered `true` for that are not
immediate. -/
def pushedRequests (requests : List (Nat × Osc.Packet)) (answers : List Bool) :
    List (Nat × Osc.Packet) :=
  ((requests.zip answers).filter fun (a, b) => b && !immediate a.2).map Prod.fst

/-- The routing the dispatch of a scheduled item shows. -/
def itemDispatch (item : ScheduleItem (Nat × Osc.Packet)) : List Event :=
  phaseBEntries item.request.1 item.time item.request.2

/-- What a scheduled item records of its push: its time and its request. -/
def itemKey (item : ScheduleItem (Nat × Osc.Packet)) : Time × (Nat × Osc.Packet) :=
  (item.time, item.request)

/-! ## Dispatch -/

theorem routing_processPacketA (R : List Event) (rid : Nat) (p : Osc.Packet) :
    Keeps (fun d : Dispatcher => d.trace.filter Event.isRouting = R) (processPacketA rid p) :=
  keeps_processPacketA rid (fun msg d h => by
    rw [processMessageA_trace, List.filter_append, h]
    simp [Event.isRouting]) p

theorem routing_processMessageB (rid : Nat) (msg : Osc.Message) (scheduleTime currentTime : Time)
    (d : Dispatcher) :
    (endState ((processMessageB rid msg scheduleTime currentTime).run d)).trace.filter Event.isRouting =
      d.trace.filter Event.isRouting ++ [.phaseB rid msg scheduleTime] := by
  rcases processMessageB_trace rid msg scheduleTime currentTime d with h | ⟨_, _, _, h⟩ <;>
    simp [h, Event.isRouting]

/-- **Phase B of a packet that returns shows its messages' Phase-B entries**, in order. -/
theorem routing_processPacketB {rid : Nat} {scheduleTime currentTime : Time} {p : Osc.Packet}
    {d d' : Dispatcher} (h : (processPacketB rid scheduleTime currentTime p).run d = .ok () d') :
    d'.trace.filter Event.isRouting = d.trace.filter Event.isRouting ++ phaseBEntries rid scheduleTime p := by
  rw [processPacketB_eq] at h
  unfold phaseBEntries
  generalize p.messages = msgs at h ⊢
  induction msgs generalizing d with
  | nil =>
    cases h
    simp
  | cons msg msgs ih =>
    obtain ⟨_, d₁, h₁, h₂⟩ := run_bind_eq_ok h
    have hB := routing_processMessageB rid msg scheduleTime currentTime d
    rw [h₁, endState_ok] at hB
    rw [ih h₂, hB, List.map_cons, List.append_assoc, List.singleton_append]

/-! ## One request -/

/-- **How `processRequests` routes one request**, when it catches nothing: Phase A's answer, and
then its Phase B, its push, or nothing. -/
theorem processRequest_routing (currentTime : Time) (rid : Nat) (p : Osc.Packet)
    {env env' : Environment α} (hrun : (processRequest currentTime (rid, p)).run env = .ok () env')
    (hsafe : ∀ e ∈ env'.dispatcher.trace, e.isUnhandled = false) :
    ∃ b pushed, env'.dispatcher.trace.filter Event.isRouting =
        env.dispatcher.trace.filter Event.isRouting ++ requestRouting currentTime (rid, p) b ∧
      env'.requests = env.requests ∧ env'.nextRequest = env.nextRequest ∧
      env'.scheduler.queue.Perm (env.scheduler.queue ++ pushed) ∧
      pushed.map itemKey = (pushedRequests [(rid, p)] [b]).map fun a => (packetTime a.2, a) := by
  have hunsafe : ∀ (d : Dispatcher) (e : Exception),
      env' = { env with dispatcher := d.record (.unhandled e) } → False := fun d e h => by
    subst h
    simpa [Event.isUnhandled] using hsafe _ (List.mem_append_right _ (List.mem_singleton_self _))
  rcases hA : (processPacketA rid p).run env.dispatcher with ⟨b, d₁⟩ | ⟨e, d₁⟩
  · have hR := routing_processPacketA _ rid p |>.run_state rfl hA
    simp only [endState_ok] at hR
    cases b
    · rw [processRequest_of_phaseA_false hA] at hrun
      cases hrun
      exact ⟨false, [], by simp [hR, requestRouting, Event.isRouting], rfl, rfl, by simp,
        by simp [pushedRequests]⟩
    cases hp : immediate p
    · rcases hs : env.scheduler.push (packetTime p) (rid, p) with e | s
      · rw [processRequest_of_push_error hA hp hs] at hrun
        exact hunsafe _ _ (EStateM.Result.ok.inj hrun).2.symm |>.elim
      · rw [processRequest_of_push_ok hA hp hs] at hrun
        cases hrun
        refine ⟨true, [⟨packetTime p, env.scheduler.counter, (rid, p)⟩], ?_, rfl, rfl,
          (Scheduler.push_queue_perm hs).trans (List.perm_append_singleton _ _).symm, ?_⟩
        · simp [hR, requestRouting, hp, Event.isRouting]
        · simp [pushedRequests, hp, itemKey]
    · rcases hB : (processPacketB rid currentTime currentTime p).run (d₁.record (.phaseADone rid true))
        with ⟨⟨⟩, d₂⟩ | ⟨e, d₂⟩
      · rw [processRequest_of_phaseB_ok hA hp hB] at hrun
        cases hrun
        refine ⟨true, [], ?_, rfl, rfl, by simp, by simp [pushedRequests, hp]⟩
        rw [routing_processPacketB hB]
        simp [hR, requestRouting, hp, Event.isRouting]
      · rw [processRequest_of_phaseB_error hA hp hB] at hrun
        exact hunsafe _ _ (EStateM.Result.ok.inj hrun).2.symm |>.elim
  · rw [processRequest_of_phaseA_error hA] at hrun
    exact hunsafe _ _ (EStateM.Result.ok.inj hrun).2.symm |>.elim

theorem pushedRequests_cons (a : Nat × Osc.Packet) (b : Bool) (requests : List (Nat × Osc.Packet))
    (answers : List Bool) :
    pushedRequests (a :: requests) (b :: answers) =
      pushedRequests [a] [b] ++ pushedRequests requests answers := by
  simp only [pushedRequests, List.zip_cons_cons, List.filter_cons, List.zip_nil_right, List.filter_nil]
  split <;> rfl

/-- **How `processRequests` routes the requests it drained**, when it catches nothing: each in
turn, by Phase A's answer for it. -/
theorem forM_processRequest_routing (currentTime : Time) :
    ∀ (requests : List (Nat × Osc.Packet)) {env env' : Environment α},
      (requests.forM (processRequest currentTime)).run env = .ok () env' →
      (∀ e ∈ env'.dispatcher.trace, e.isUnhandled = false) →
      ∃ answers pushed, answers.length = requests.length ∧
        env'.dispatcher.trace.filter Event.isRouting = env.dispatcher.trace.filter Event.isRouting ++
          (List.zipWith (requestRouting currentTime) requests answers).flatten ∧
        env'.requests = env.requests ∧ env'.nextRequest = env.nextRequest ∧
        env'.scheduler.queue.Perm (env.scheduler.queue ++ pushed) ∧
        pushed.map itemKey = (pushedRequests requests answers).map fun a => (packetTime a.2, a)
  | [], env, env', hrun, _ => by
    cases hrun
    exact ⟨[], [], rfl, by simp, rfl, rfl, by simp, by simp [pushedRequests]⟩
  | (rid, p) :: requests, env, env', hrun, hsafe => by
    obtain ⟨_, env₁, h₁, h₂⟩ := run_bind_eq_ok hrun
    have hgrow : env₁.dispatcher.trace <+: env'.dispatcher.trace :=
      (Keeps.forM fun r _ => (traceGrows_invariant env₁.dispatcher.trace).processRequest currentTime r
        (α := α)).run_state (List.prefix_refl _) h₂
    obtain ⟨b, P₁, hR₁, hreq₁, hn₁, hq₁, hP₁⟩ :=
      processRequest_routing currentTime rid p h₁ fun e he => hsafe e (hgrow.subset he)
    obtain ⟨answers, P, hlen, hR, hreq, hn, hq, hP⟩ :=
      forM_processRequest_routing currentTime requests h₂ hsafe
    refine ⟨b :: answers, P₁ ++ P, by simp [hlen], ?_, hreq.trans hreq₁, hn.trans hn₁,
      (hq.trans (hq₁.append_right P)).trans (by rw [List.append_assoc]), ?_⟩
    · rw [hR, hR₁, List.zipWith_cons_cons, List.flatten_cons, List.append_assoc]
    · rw [pushedRequests_cons, List.map_append, List.map_append, hP₁, hP]

/-- **`processScheduler`'s loop pops exactly what it dispatched**: from a queue no longer than
its fuel, a loop that returns has dispatched the due items in queue order and left the others,
and the queue being sorted by time, no item it left is due. -/
theorem processScheduler_loop_routing (currentTime nextTime : Time) :
    ∀ (fuel : Nat) {e e' : Environment α}, e.scheduler.queue.length ≤ fuel →
      (processScheduler.loop currentTime nextTime fuel).run e = .ok () e' →
      e'.dispatcher.trace.filter Event.isRouting = e.dispatcher.trace.filter Event.isRouting ++
          (e.scheduler.queue.filter (·.time ≤ nextTime)).flatMap itemDispatch ∧
        e'.scheduler.queue = e.scheduler.queue.filter (nextTime < ·.time) ∧
        e'.requests = e.requests ∧ e'.nextRequest = e.nextRequest
  | 0, e, e', hlen, hrun => by
    have hq : e.scheduler.queue = [] := List.length_eq_zero.1 (Nat.le_zero.1 hlen)
    cases hrun
    simp [hq]
  | fuel + 1, e, e', hlen, hrun => by
    have hsorted := e.scheduler.sorted
    rcases hq : e.scheduler.queue with _ | ⟨q, rest⟩
    · rw [processScheduler_loop_stop (by simp [Scheduler.top?, hq])] at hrun
      cases hrun
      simp [hq]
    have htop : e.scheduler.top? = some q := by simp [Scheduler.top?, hq]
    rw [hq] at hsorted hlen
    by_cases hdue : q.time ≤ nextTime
    · rw [processScheduler_loop_due htop hdue] at hrun
      obtain ⟨_, e₁, h₁, h₂⟩ := run_bind_eq_ok hrun
      obtain ⟨d₁, hB, rfl⟩ := run_dispatch_eq_ok h₁
      obtain ⟨_, e₂, h₃, h₄⟩ := run_bind_eq_ok h₂
      cases h₃
      obtain ⟨hR, hq', hreq, hn⟩ := processScheduler_loop_routing currentTime nextTime fuel
        (by simp only [Scheduler.pop_queue, hq, List.tail_cons]; simpa using hlen) h₄
      simp only [Scheduler.pop_queue, hq, List.tail_cons] at hR hq'
      refine ⟨?_, ?_, hreq, hn⟩
      · rw [hR, routing_processPacketB hB, List.filter_cons_of_pos (by simpa using hdue),
          List.flatMap_cons, List.append_assoc]
        rfl
      · rw [hq', List.filter_cons_of_neg (by simpa using hdue)]
    · rw [processScheduler_loop_stop fun item h => by
        rw [htop] at h; cases h; exact not_le.1 hdue] at hrun
      cases hrun
      have hlate : ∀ r ∈ q :: rest, nextTime < r.time := fun r hr => by
        rcases List.mem_cons.1 hr with rfl | hr
        · exact not_le.1 hdue
        · exact (not_le.1 hdue).trans_le (List.rel_of_sorted_cons hsorted r hr).time_le
      have hnone : (q :: rest).filter (·.time ≤ nextTime) = [] :=
        List.filter_eq_nil_iff.2 fun r hr h => not_le.2 (hlate r hr) (of_decide_eq_true h)
      have hall : (q :: rest).filter (nextTime < ·.time) = q :: rest :=
        List.filter_eq_self.2 fun r hr => decide_eq_true (hlate r hr)
      refine ⟨?_, ?_, rfl, rfl⟩
      · rw [hnone, List.flatMap_nil, List.append_nil]
      · rw [hall, hq]

/-! ## One block -/

theorem sampleRate_run [Add α] [Zero α] {options : Options} {data : Bus → Buffer α}
    {env : Environment α} (h : new options data = .ok env) (inputs : List (Input α)) :
    (env.run inputs).dispatcher.sampleRate = options.sampleRate := by
  obtain ⟨nodes, _, rfl⟩ := new_ok h
  exact (sampleRate_invariant options.sampleRate).run rfl inputs

/-- **How a block routes every request.** In a run from a constructed engine, take a block that
returns, no exception having reached `processRequests`' `catch` so far. Its routing entries are,
for each drained request in turn, Phase A's answer and then the request's Phase-B entries at
the block's start (a message, or a bundle with time tag 1), its push (any other bundle), or
nothing (Phase A answered `false`); then, in queue order, the Phase-B entries of every item of
the scheduler (the items queued before, and those the drain pushed) whose time is at most the
block's end `currentTime + numFrames / sampleRate`. Those items leave the scheduler; every
item left is later than the block's end. -/
theorem block_routes_requests [Add α] [Zero α] {options : Options} {data : Bus → Buffer α}
    {env : Environment α} (h : new options data = .ok env) (inputs : List (Input α))
    {currentTime : Time} {numFrames : Nat} {ins outs : Nat → Buffer α} {graph : List (BusOp Bus α)}
    {env' : Environment α}
    (hok : (process currentTime numFrames ins outs graph).run (env.run inputs) = .ok () env')
    (hsafe : ∀ e ∈ env'.dispatcher.trace, e.isUnhandled = false) :
    ∃ (answers : List Bool) (pushed queue : List (ScheduleItem (Nat × Osc.Packet))),
      answers.length = (env.run inputs).requests.length ∧
      pushed.map itemKey =
        (pushedRequests (env.run inputs).requests answers).map (fun a => (packetTime a.2, a)) ∧
      queue.Perm ((env.run inputs).scheduler.queue ++ pushed) ∧
      env'.dispatcher.trace.filter Event.isRouting =
        (env.run inputs).dispatcher.trace.filter Event.isRouting ++
          (List.zipWith (requestRouting currentTime) (env.run inputs).requests answers).flatten ++
          (queue.filter (·.time ≤ currentTime + numFrames / options.sampleRate)).flatMap itemDispatch ∧
      env'.scheduler.queue = queue.filter (currentTime + numFrames / options.sampleRate < ·.time) := by
  obtain ⟨e₁, e₂, h₁, h₂, rfl⟩ := process_ok hok
  have hsr : e₁.dispatcher.sampleRate = options.sampleRate :=
    ((sampleRate_invariant options.sampleRate).processRequests currentTime).run_state
      (sampleRate_run h inputs) h₁
  have hgrow : e₁.dispatcher.trace <+: e₂.dispatcher.trace :=
    (Keeps.bind Keeps.get fun _ => (traceGrows_invariant e₁.dispatcher.trace).processScheduler_loop
      currentTime _ _).run_state (List.prefix_refl _) h₂
  obtain ⟨answers, pushed, hlen, hR₁, -, -, hq₁, hP⟩ :=
    forM_processRequest_routing currentTime (env.run inputs).requests h₁
      fun e he => hsafe e (hgrow.subset he)
  obtain ⟨hR₂, hq₂, -, -⟩ := processScheduler_loop_routing currentTime _ _ le_rfl h₂
  rw [hsr] at hR₂ hq₂
  exact ⟨answers, pushed, e₁.scheduler.queue, hlen, hP, hq₁, hR₂.trans (by rw [hR₁]), hq₂⟩


theorem block_routes_requests_query :
    let env := init (α := Int) ⟨48000, 64, 0, 0, 16, 0, 1024⟩ (fun _ _ => 0)
      ⟨16, [rootGroup], List.nodup_singleton _⟩
    let inputs : List (Input Int) := [.send (.message ⟨"/query/external_inputs", []⟩),
      .send (.bundle 2 [.message ⟨"/node/free", [.int32 7]⟩])]
    Environment.new (α := Int) ⟨48000, 64, 0, 0, 16, 0, 1024⟩ (fun _ _ => 0) = .ok env ∧
      ∃ env', (process 0 64 (fun _ _ => 0) (fun _ _ => 0) []).run (env.run inputs) = .ok () env' ∧
        (∀ e ∈ env'.dispatcher.trace, e.isUnhandled = false) ∧
        ∃ (answers : List Bool) (pushed queue : List (ScheduleItem (Nat × Osc.Packet))),
          answers.length = (env.run inputs).requests.length ∧
          pushed.map itemKey =
            (pushedRequests (env.run inputs).requests answers).map (fun a => (packetTime a.2, a)) ∧
          queue.Perm ((env.run inputs).scheduler.queue ++ pushed) ∧
          env'.dispatcher.trace.filter Event.isRouting =
            (env.run inputs).dispatcher.trace.filter Event.isRouting ++
              (List.zipWith (requestRouting 0) (env.run inputs).requests answers).flatten ++
              (queue.filter (·.time ≤ 0 + ((64 : Nat) : Time) / 48000)).flatMap itemDispatch ∧
          env'.scheduler.queue = queue.filter (0 + ((64 : Nat) : Time) / 48000 < ·.time) := by
  intro env inputs
  have h : Environment.new (α := Int) ⟨48000, 64, 0, 0, 16, 0, 1024⟩ (fun _ _ => 0) = .ok env := rfl
  -- Phase A answers both requests, Phase B runs the query at once, the bundle is pushed.
  obtain ⟨d₁, d₂, d₃, d₄, hA₁, hB₁, hA₂, hsr, hB₂, hsafe⟩ : ∃ d₁ d₂ d₃ d₄,
      (processPacketA 0 (.message ⟨"/query/external_inputs", []⟩)).run env.dispatcher = .ok true d₁ ∧
      (processPacketB 0 0 0 (.message ⟨"/query/external_inputs", []⟩)).run
        (d₁.record (.phaseADone 0 true)) = .ok () d₂ ∧
      (processPacketA 1 (.bundle 2 [.message ⟨"/node/free", [.int32 7]⟩])).run d₂ = .ok true d₃ ∧
      d₃.sampleRate = 48000 ∧
      (processPacketB 1 (packetTime (.bundle 2 [.message ⟨"/node/free", [.int32 7]⟩])) 0
          (.bundle 2 [.message ⟨"/node/free", [.int32 7]⟩])).run
        ((d₃.record (.phaseADone 1 true)).record
          (.pushed 1 (packetTime (.bundle 2 [.message ⟨"/node/free", [.int32 7]⟩])))) = .ok () d₄ ∧
      ∀ e ∈ d₄.trace, e.isUnhandled = false :=
    ⟨_, _, _, _, by with_unfolding_all rfl, by with_unfolding_all rfl, by with_unfolding_all rfl,
      by with_unfolding_all rfl, by with_unfolding_all rfl, by with_unfolding_all decide⟩
  obtain ⟨S, hs, hS⟩ := Scheduler.push_of_empty (s := env.scheduler) rfl (by decide)
    (packetTime (.bundle 2 [.message ⟨"/node/free", [.int32 7]⟩]))
    (1, .bundle 2 [.message ⟨"/node/free", [.int32 7]⟩])
  have h₁ := processRequests_pair (show (env.run inputs).requests = _ from rfl)
    (processRequest_of_phaseB_ok hA₁ rfl hB₁) (processRequest_of_push_ok hA₂ rfl hs)
  -- The bundle is due by the block's end: the scheduler dispatches it.
  have hdue : packetTime (.bundle 2 [.message ⟨"/node/free", [.int32 7]⟩]) ≤
      0 + ((64 : Nat) : Time) / d₃.sampleRate := by
    rw [hsr]
    with_unfolding_all decide
  have hrun : (process 0 64 (fun _ _ => 0) (fun _ _ => 0) []).run (env.run inputs) = .ok () _ :=
    process_of_ok h₁ (processScheduler_single hS hdue hB₂)
  exact ⟨h, _, hrun, hsafe, block_routes_requests h inputs hrun hsafe⟩

/-! ## What the proviso leaves out -/

/-- **A push onto a full scheduler is lost, with only a line on `std::cerr`.** Take any
engine state whose scheduler holds `maxSize` items, and a drained bundle with a time tag other
than `1` that Phase A answered `true` for. `Scheduler::push` throws, and `processRequests`'
`catch` prints the exception: the scheduler is as it was, and the dispatcher is as Phase A
left it but for the answer and the report in the trace. No `replyError` tells the client. -/
theorem push_overflow_not_replied {env : Environment α} {rid : Nat} {time : UInt64}
    {elems : List Osc.Packet} {currentTime : Time} {d : Dispatcher}
    (hfull : env.scheduler.queue.length = env.scheduler.maxSize)
    (hA : (processPacketA rid (.bundle time elems)).run env.dispatcher = .ok true d)
    (ht : time ≠ 1) :
    (processRequest currentTime (rid, .bundle time elems)).run env = .ok ()
      { env with dispatcher := { d with trace := d.trace ++
          [.phaseADone rid true, .unhandled (.runtimeError "Scheduler queue overflow")] } } := by
  have hs : env.scheduler.push (packetTime (.bundle time elems)) (rid, .bundle time elems) =
      .error (.runtimeError "Scheduler queue overflow") := by
    simp [Scheduler.push, hfull]
  rw [processRequest_of_push_error hA (by simpa [immediate] using ht) hs]
  simp [Dispatcher.record]

/-- The scheduler the constructor builds, after the drains of earlier blocks pushed
`kQueueSize` bundles for 10 s, requests `0` to `kQueueSize - 1`. -/
theorem push_overflow_not_replied_full :
    let env : Environment Int := { init ⟨48000, 64, 0, 0, 16, 0, 1024⟩ (fun _ _ => 0)
        ⟨16, [rootGroup], List.nodup_singleton _⟩ with
      scheduler := (Scheduler.new kQueueSize).pushAll
        ((List.range kQueueSize).map fun k => (10, (k, .bundle 42949672960 []))) }
    let d := env.dispatcher.record (.phaseA kQueueSize ⟨"/node/free", [.int32 7]⟩)
    env.scheduler.queue.length = env.scheduler.maxSize ∧
      (processPacketA kQueueSize (.bundle 2 [.message ⟨"/node/free", [.int32 7]⟩])).run
        env.dispatcher = .ok true d ∧
      (2 : UInt64) ≠ 1 ∧
      (processRequest 0 (kQueueSize, .bundle 2 [.message ⟨"/node/free", [.int32 7]⟩])).run env =
        .ok () { env with dispatcher := { d with trace := d.trace ++
          [.phaseADone kQueueSize true, .unhandled (.runtimeError "Scheduler queue overflow")] } } := by
  intro env d
  have hfull : env.scheduler.queue.length = env.scheduler.maxSize := by
    obtain ⟨h₁, h₂⟩ := Scheduler.pushAll_length (Scheduler.new (ρ := Nat × Osc.Packet) kQueueSize)
      ((List.range kQueueSize).map fun k => (10, (k, .bundle 42949672960 []))) (by simp [Scheduler.new])
    simp only [env, h₁, h₂]
    simp [Scheduler.new]
  have hA : (processPacketA kQueueSize (.bundle 2 [.message ⟨"/node/free", [.int32 7]⟩])).run
      env.dispatcher = .ok true d := by with_unfolding_all rfl
  exact ⟨hfull, hA, by decide, push_overflow_not_replied hfull hA (by decide)⟩

end Environment

end Methcla
