import Methcla.RequestIds
/-!
No request is routed twice, and none is lost (`Engine.cpp`: `send`, `processRequests`,
`processScheduler`).

`processRequests` takes each request off the queue once, and one round of its loop decides
what becomes of it: Phase A's answer, then Phase B at once, a push onto the scheduler, or
nothing. The trace records the answer (`phaseADone`) and the push (`pushed`), each under the
request's number (`Event.routed`). A number could be routed twice only if a request were
drained twice, two requests shared a number, or the scheduler's dispatch of an item routed it
again. None of these happens.

`RoutedOnce` says that no number has two answers or two pushes, and that every number the
trace has routed was handed out and is not that of a request still waiting: `send` hands out
a fresh number, a drain routes the requests it took one round each, and a round adds at most
the answer and the push of its own request (`processRequest_routed`), whatever throws. Phase B
routes nothing. So over every run, no request is answered by Phase A twice or pushed twice
(`request_routed_once_run`).

Nor is a request lost between `send` and Phase A. `processRequests` takes the whole queue and
catches what each round throws, so an exception in one request does not keep the next from
its round, and a round enters Phase A for its request's first message before anything can
throw (`processRequest_takenUp`). `TakenUp` says that every number handed out is that of a
request still waiting or of one a drain has taken up; so over every run each request sent is
waiting or taken up, and once a block has run none is waiting (`requests_taken_up_run`).
-/

set_option autoImplicit false

namespace Methcla

/-- The routing decision an event records, with the request's number: Phase A's answer
(`false`) or the push onto the scheduler (`true`). -/
def Event.routed : Event → Option (Bool × Nat)
  | .phaseADone rid _ => some (false, rid)
  | .pushed rid _ => some (true, rid)
  | _ => none

/-- The request an event shows a drain took up: a Phase-A entry for one of its messages, or
Phase A's answer for it. -/
def Event.takenUp : Event → Option Nat
  | .phaseA rid _ => some rid
  | .phaseADone rid _ => some rid
  | _ => none

namespace Dispatcher

theorem routed_processPacketA (R : List (Bool × Nat)) (rid : Nat) (p : Osc.Packet) :
    Keeps (fun d : Dispatcher => d.trace.filterMap Event.routed = R) (processPacketA rid p) :=
  keeps_processPacketA rid (fun msg d h => by simp [processMessageA_trace, h, Event.routed]) p

theorem routed_processPacketB (R : List (Bool × Nat)) (rid : Nat) (scheduleTime currentTime : Time)
    (p : Osc.Packet) :
    Keeps (fun d : Dispatcher => d.trace.filterMap Event.routed = R)
      (processPacketB rid scheduleTime currentTime p) :=
  keeps_processPacketB rid (fun msg d h => by
    rcases processMessageB_trace rid msg scheduleTime currentTime d with h' | ⟨_, _, _, h'⟩ <;>
      simp [h', h, Event.routed]) p

/-- Phase A of a packet enters its first message, however it ends. -/
theorem phaseA_mem_processPacketA (rid : Nat) {p : Osc.Packet} {msg : Osc.Message}
    {msgs : List Osc.Message} (hm : p.messages = msg :: msgs) (d : Dispatcher) :
    Event.phaseA rid msg ∈ (endState ((processPacketA rid p).run d)).trace := by
  rw [processPacketA_eq, hm, processMessagesA]
  have h := Keeps.bind_at (P := fun d' : Dispatcher => d.trace ++ [.phaseA rid msg] <+: d'.trace)
    (x := processMessageA rid msg) (s := d) (by simp [processMessageA_trace]) fun r =>
      keeps_processMessagesA rid ((traceGrows_invariant _).messageA rid) (false || r) msgs
  exact h.subset (List.mem_append_right _ (List.mem_singleton_self _))

end Dispatcher

namespace Environment

open Dispatcher

variable {α : Type}

/-- **One round of `processRequests` routes its own request, once**: it adds Phase A's answer
for it and its push, or fewer, whatever throws. -/
theorem processRequest_routed (currentTime : Time) (rid : Nat) (p : Osc.Packet) (env : Environment α) :
    ∃ X, List.Sublist X [(false, rid), (true, rid)] ∧
      (endState ((processRequest currentTime (rid, p)).run env)).dispatcher.trace.filterMap Event.routed =
        env.dispatcher.trace.filterMap Event.routed ++ X := by
  have hA := routed_processPacketA (env.dispatcher.trace.filterMap Event.routed) rid p
  rcases hArun : (processPacketA rid p).run env.dispatcher with ⟨_ | _, d₁⟩ | ⟨e, d₁⟩ <;>
    have h₁ := hA.run_state rfl hArun <;> simp only [endState_ok, endState_error] at h₁
  · rw [processRequest_of_phaseA_false hArun]
    exact ⟨[(false, rid)], by simp, by simp [h₁, Event.routed]⟩
  · cases hp : immediate p
    · rcases hs : env.scheduler.push (packetTime p) (rid, p) with e | s
      · rw [processRequest_of_push_error hArun hp hs]
        exact ⟨[(false, rid)], by simp, by simp [h₁, Event.routed]⟩
      · rw [processRequest_of_push_ok hArun hp hs]
        exact ⟨_, List.Sublist.refl _, by simp [h₁, Event.routed]⟩
    · have hB := routed_processPacketB (env.dispatcher.trace.filterMap Event.routed ++ [(false, rid)])
        rid currentTime currentTime p (d₁.record (.phaseADone rid true)) (by simp [h₁, Event.routed])
      rcases hBrun : (processPacketB rid currentTime currentTime p).run (d₁.record (.phaseADone rid true))
        with ⟨⟨⟩, d₂⟩ | ⟨e, d₂⟩ <;> rw [hBrun] at hB
      · rw [processRequest_of_phaseB_ok hArun hp hBrun]
        exact ⟨[(false, rid)], by simp, hB⟩
      · rw [processRequest_of_phaseB_error hArun hp hBrun]
        exact ⟨[(false, rid)], by simp, by simpa [Event.routed] using hB⟩
  · rw [processRequest_of_phaseA_error hArun]
    exact ⟨[], List.nil_sublist _, by simp [h₁, Event.routed]⟩

/-- No request number has two routing decisions, and every number routed was handed out and
is not that of a request still waiting, whether in the queue or taken by a drain. -/
structure RoutedOnce (pending : List (Nat × Osc.Packet)) (v : RequestView) : Prop where
  numbered : RequestsNumbered pending v
  nodup : (v.trace.filterMap Event.routed).Nodup
  routed : ∀ r ∈ v.trace.filterMap Event.routed,
    r.2 < v.nextRequest ∧ r.2 ∉ (pending ++ v.requests).map Prod.fst

/-- A round of `processRequests` changes neither the queue nor the next number. -/
theorem processRequest_requests (currentTime : Time) (a : Nat × Osc.Packet) (env : Environment α) :
    (endState ((processRequest currentTime a).run env)).requests = env.requests ∧
      (endState ((processRequest currentTime a).run env)).nextRequest = env.nextRequest := by
  obtain ⟨d, hrun | ⟨s, -, hrun⟩⟩ := processRequest_run currentTime a.1 a.2 env <;>
    rw [hrun] <;> exact ⟨rfl, rfl⟩

theorem routedOnce_invariant : EngineInvariant RoutedOnce where
  send v packet h := ⟨requestsNumbered_invariant.send v packet h.numbered, h.nodup, fun r hr => by
    obtain ⟨hlt, hnot⟩ := h.routed r hr
    refine ⟨Nat.lt_succ_of_lt hlt, ?_⟩
    simp only [List.nil_append, List.map_append, List.mem_append, not_or] at hnot ⊢
    exact ⟨hnot, by simpa using hlt.ne⟩⟩
  drain v h := ⟨requestsNumbered_invariant.drain v h.numbered, h.nodup, fun r hr => by
    simpa using h.routed r hr⟩
  request currentTime a pending env h := by
    obtain ⟨rid, p⟩ := a
    obtain ⟨X, hX, htrace⟩ := processRequest_routed currentTime rid p env
    obtain ⟨hreq, hnext⟩ := processRequest_requests currentTime (rid, p) env
    have hsorted := List.sorted_cons.1 h.numbered.waiting_sorted
    have hlt : rid < env.nextRequest := h.numbered.waiting_lt _ (.head _)
    -- Every decision the round adds is about `rid`, which nothing routed before.
    have hX₂ : ∀ x ∈ X, x.2 = rid := fun x hx => by
      rcases List.mem_pair.1 (hX.subset hx) with rfl | rfl <;> rfl
    have hold : ∀ r ∈ env.dispatcher.trace.filterMap Event.routed, r.2 ≠ rid := fun r hr he =>
      (h.routed r hr).2 (he ▸ List.mem_cons_self _ _)
    refine ⟨requestsNumbered_invariant.request currentTime (rid, p) pending env h.numbered, ?_, ?_⟩
    · simp only [view]
      rw [htrace]
      exact h.nodup.append (hX.nodup (by simp)) fun r hr hr' => hold r hr (hX₂ r hr')
    · simp only [view]
      rw [htrace, hreq, hnext]
      intro r hr
      rcases List.mem_append.1 hr with hr | hr
      · exact ⟨(h.routed r hr).1, fun hm => (h.routed r hr).2 (List.mem_cons_of_mem _ hm)⟩
      · rw [hX₂ r hr]
        exact ⟨hlt, fun hm => lt_irrefl _ (hsorted.1 _ hm)⟩
  round currentTime item env htop h := by
    have hB := routed_processPacketB _ item.request.1 item.time currentTime item.request.2
      env.dispatcher rfl
    have hn := requestsNumbered_invariant.round currentTime item env htop h.numbered
    rw [endState_dispatch] at hn ⊢
    exact ⟨hn, by simpa only [view, hB] using h.nodup, by simpa only [view, hB] using h.routed⟩
  pop v h := ⟨requestsNumbered_invariant.pop v h.numbered, h.nodup, h.routed⟩

/-- **No request is routed twice.** In every state a run reaches from a constructed engine,
under any interleaving of sends, blocks and worker steps and whatever throws: no request has
two Phase-A answers and none was pushed onto the scheduler twice, as the routing decisions
the trace records are pairwise distinct; and each of them is about a request that was sent. -/
theorem request_routed_once_run [Add α] [Zero α] {options : Options} {data : Bus → Buffer α}
    {env : Environment α} (h : new options data = .ok env) (inputs : List (Input α)) :
    let T := (env.run inputs).dispatcher.trace.filterMap Event.routed
    T.Nodup ∧ ∀ r ∈ T, r.2 < (env.run inputs).nextRequest := by
  obtain ⟨nodes, _, rfl⟩ := new_ok h
  have hr := routedOnce_invariant.run (I := RoutedOnce)
    ⟨requestsNumbered_init options data nodes, List.nodup_nil, fun _ h => nomatch h⟩ inputs
  exact ⟨hr.nodup, fun r h => (hr.routed r h).1⟩

theorem request_routed_once_run_two :
    let env := init (α := Int) ⟨48000, 64, 0, 2, 1024, 16, 65536⟩ (fun _ _ => 0)
      ⟨1024, [rootGroup], List.nodup_singleton _⟩
    let env' := env.run [.send (.bundle 42949672960 []), .send (.message ⟨"/node/free", [.int32 1]⟩),
      .process 0 64 (fun _ _ => 0) (fun _ _ => 0) []]
    new ⟨48000, 64, 0, 2, 1024, 16, 65536⟩ (fun _ _ => 0) = .ok env ∧
      (env'.dispatcher.trace.filterMap Event.routed).Nodup ∧
      ∀ r ∈ env'.dispatcher.trace.filterMap Event.routed, r.2 < env'.nextRequest :=
  have h : new (α := Int) ⟨48000, 64, 0, 2, 1024, 16, 65536⟩ (fun _ _ => 0) =
      .ok (init ⟨48000, 64, 0, 2, 1024, 16, 65536⟩ (fun _ _ => 0)
        ⟨1024, [rootGroup], List.nodup_singleton _⟩) := rfl
  ⟨h, request_routed_once_run h _⟩

/-! ## No request is lost -/

/-- **A round of `processRequests` takes up its request**, whatever throws: it enters Phase A
for the request's first message, or, for a bundle with no message, records Phase A's answer. -/
theorem processRequest_takenUp (currentTime : Time) (rid : Nat) (p : Osc.Packet) (env : Environment α) :
    rid ∈ (endState ((processRequest currentTime (rid, p)).run env)).dispatcher.trace.filterMap
      Event.takenUp := by
  rcases hm : p.messages with _ | ⟨msg, msgs⟩
  · have hA : (processPacketA rid p).run env.dispatcher = .ok false env.dispatcher := by
      rw [processPacketA_eq, hm]
      rfl
    rw [processRequest_of_phaseA_false hA]
    simp [Event.takenUp]
  · set T := (endState ((processPacketA rid p).run env.dispatcher)).trace
    have hQ := traceGrows_invariant T
    -- Phase A's trace stays a prefix through the rest of the round and the handler.
    have hT : T <+: (endState ((processRequest currentTime (rid, p)).run env)).dispatcher.trace := by
      rw [processRequest_eq]
      refine Keeps.tryCatch_bind_at (P := fun env : Environment α => T <+: env.dispatcher.trace)
        ?_ (fun _ => ?_) fun e => keeps_dispatcher (hQ.log (.unhandled e) rfl)
      · simp only [endState_dispatch, T, List.prefix_refl]
      · exact Keeps.bind (keeps_dispatcher (hQ.log (.phaseADone rid _) rfl)) fun _ => Keeps.ite
          (Keeps.ite (keeps_dispatcher (hQ.toRunInvariant.packetB _ _ _ _))
            (keeps_schedule (hQ.log (.pushed rid _) rfl))) (Keeps.pure _)
    exact List.mem_filterMap.2 ⟨_, hT.subset (phaseA_mem_processPacketA rid hm env.dispatcher), rfl⟩

/-- `processScheduler`'s loop leaves the request queue alone. -/
theorem processScheduler_loop_requests (currentTime nextTime : Time) (fuel : Nat)
    (r : List (Nat × Osc.Packet)) :
    Keeps (fun env : Environment α => env.requests = r) (processScheduler.loop currentTime nextTime fuel) := by
  induction fuel with
  | zero => exact Keeps.pure _
  | succ fuel ih =>
    refine Keeps.bind Keeps.get fun _ => ?_
    split
    · exact Keeps.pure _
    · exact Keeps.ite (Keeps.bind (keeps_dispatch fun _ h _ _ => h) fun _ =>
        Keeps.bind (Keeps.modify fun _ h => h) fun _ => ih) (Keeps.pure _)

/-- **A block leaves no request waiting**, whatever throws. -/
theorem process_requests_nil [Add α] [Zero α] (currentTime : Time) (numFrames : Nat)
    (inputs outputs : Nat → Buffer α) (graph : List (BusOp Bus α)) (env : Environment α) :
    (endState ((process currentTime numFrames inputs outputs graph).run env)).requests = [] := by
  have hdrain : (endState ((processRequests currentTime).run env)).requests = [] := by
    rw [run_processRequests]
    exact Keeps.forM (fun r _ e he => (processRequest_requests currentTime r e).1.trans he)
      { env with requests := [] } rfl
  exact Keeps.bind_at (P := fun e : Environment α => e.requests = []) hdrain fun _ => Keeps.bind Keeps.get fun _ =>
    Keeps.bind (Keeps.bind Keeps.get fun _ => processScheduler_loop_requests _ _ _ []) fun _ =>
    Keeps.bind (Keeps.modify fun _ h => h) fun _ => Keeps.bind (Keeps.modify fun _ h => h) fun _ =>
    Keeps.bind (Keeps.modify fun _ h => h) fun _ => Keeps.bind (Keeps.modify fun _ h => h) fun _ =>
    Keeps.modify fun _ h => h

/-- Every number handed out is that of a request still waiting, in the queue or taken by a
drain, or of one a drain has taken up. -/
def TakenUp (pending : List (Nat × Osc.Packet)) (v : RequestView) : Prop :=
  ∀ rid < v.nextRequest,
    rid ∈ (pending ++ v.requests).map Prod.fst ∨ rid ∈ v.trace.filterMap Event.takenUp

theorem takenUp_invariant : EngineInvariant TakenUp where
  send v packet h rid hrid := by
    rcases Nat.lt_succ_iff_lt_or_eq.1 hrid with hlt | rfl
    · refine (h rid hlt).imp_left fun hm => ?_
      rw [List.nil_append, List.map_append]
      exact List.mem_append_left _ hm
    · exact .inl (by simp)
  drain v h rid hrid := by simpa using h rid hrid
  request currentTime a pending env h rid hrid := by
    obtain ⟨r, p⟩ := a
    obtain ⟨hreq, hnext⟩ := processRequest_requests currentTime (r, p) env
    have hgrow := (traceGrows_invariant env.dispatcher.trace).processRequest currentTime (r, p) env
      (List.prefix_refl _)
    simp only [view, hreq, hnext] at hrid ⊢
    rcases h rid hrid with hm | hm
    · simp only [List.cons_append, List.map_cons, List.mem_cons] at hm
      rcases hm with rfl | hm
      · exact .inr (processRequest_takenUp currentTime _ p env)
      · exact .inl hm
    · exact .inr ((hgrow.sublist.filterMap _).subset hm)
  round currentTime item env _ h rid hrid := by
    have hgrow := (traceGrows_invariant env.dispatcher.trace).toRunInvariant.packetB item.request.1
      item.time currentTime item.request.2 env.dispatcher (List.prefix_refl _)
    rw [endState_dispatch] at hrid ⊢
    exact (h rid hrid).imp_right fun hm => (hgrow.sublist.filterMap _).subset hm
  pop _ h := h

/-- **No request is lost.** In every state a run reaches from a constructed engine, under any
interleaving of sends, blocks and worker steps and whatever throws, every request the queue
took is still waiting in it or has been taken up by a block, its Phase A entered; and once a
block has run, every request the queue took before it has been taken up. -/
theorem requests_taken_up_run [Add α] [Zero α] {options : Options} {data : Bus → Buffer α}
    {env : Environment α} (h : new options data = .ok env) (inputs : List (Input α)) :
    (∀ rid < (env.run inputs).nextRequest, rid ∈ (env.run inputs).requests.map Prod.fst ∨
        rid ∈ (env.run inputs).dispatcher.trace.filterMap Event.takenUp) ∧
      ∀ currentTime numFrames ins outs graph,
        let env' := env.run (inputs ++ [.process currentTime numFrames ins outs graph])
        ∀ rid < env'.nextRequest, rid ∈ env'.dispatcher.trace.filterMap Event.takenUp := by
  obtain ⟨nodes, _, rfl⟩ := new_ok h
  have hI : ∀ inputs, TakenUp [] ((init options data nodes).run inputs).view := fun inputs =>
    takenUp_invariant.run (I := TakenUp) (fun _ h => absurd h (Nat.not_lt_zero _)) inputs
  refine ⟨hI inputs, fun currentTime numFrames ins outs graph rid hrid => ?_⟩
  have hnil : ((init options data nodes).run
      (inputs ++ [.process currentTime numFrames ins outs graph])).requests = [] := by
    simp only [run, List.foldl_append, List.foldl_cons, List.foldl_nil]
    exact process_requests_nil _ _ _ _ _ _
  simpa [view, hnil] using hI _ rid hrid

theorem requests_taken_up_run_two :
    let env := init (α := Int) ⟨48000, 64, 0, 2, 1024, 16, 65536⟩ (fun _ _ => 0)
      ⟨1024, [rootGroup], List.nodup_singleton _⟩
    let sends : List (Input Int) :=
      [.send (.bundle 42949672960 []), .send (.message ⟨"/node/free", [.int32 1]⟩)]
    new ⟨48000, 64, 0, 2, 1024, 16, 65536⟩ (fun _ _ => 0) = .ok env ∧
      (∀ rid < (env.run sends).nextRequest, rid ∈ (env.run sends).requests.map Prod.fst ∨
          rid ∈ (env.run sends).dispatcher.trace.filterMap Event.takenUp) ∧
        ∀ currentTime numFrames ins outs graph,
          let env' := env.run (sends ++ [.process currentTime numFrames ins outs graph])
          ∀ rid < env'.nextRequest, rid ∈ env'.dispatcher.trace.filterMap Event.takenUp :=
  have h : new (α := Int) ⟨48000, 64, 0, 2, 1024, 16, 65536⟩ (fun _ _ => 0) =
      .ok (init ⟨48000, 64, 0, 2, 1024, 16, 65536⟩ (fun _ _ => 0)
        ⟨1024, [rootGroup], List.nodup_singleton _⟩) := rfl
  ⟨h, requests_taken_up_run h _⟩

end Environment

end Methcla
