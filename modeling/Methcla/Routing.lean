import Methcla.Trace
/-!
How a block routes each request (`Engine.cpp`: `processRequests`, `processScheduler`).

`processRequests` runs Phase A on each drained request, then Phase B at once for a message
or a bundle with time tag 1, a push onto the scheduler for any other bundle, or nothing when
Phase A answers `false`; its `catch` reports whatever escapes. `processScheduler` runs Phase
B on each item due before the block ends, popping it after. The lemmas here say what each
of these does, outcome by outcome, so that results about runs never unfold them.
-/

set_option autoImplicit false

namespace Methcla

/-- The dispatcher with one more event in its trace. -/
def Dispatcher.record (d : Dispatcher) (e : Event) : Dispatcher :=
  { d with trace := d.trace ++ [e] }

@[simp] theorem Dispatcher.record_trace (d : Dispatcher) (e : Event) :
    (d.record e).trace = d.trace ++ [e] := rfl

theorem Dispatcher.run_log (e : Event) (d : Dispatcher) : (Dispatcher.log e).run d = .ok () (d.record e) :=
  rfl

namespace Environment

open Dispatcher

variable {α : Type}

/-- Whether Phase B runs right after Phase A: a message, or a bundle with time tag 1. -/
def immediate : Osc.Packet → Bool
  | .message _ => true
  | .bundle time _ => time = 1

/-- The time a bundle is scheduled for. -/
def packetTime : Osc.Packet → Time
  | .message _ => 0
  | .bundle time _ => methcla_time_from_uint64 time

/-- `processRequests`' two branches are one: a message goes the way of an immediate bundle. -/
theorem processRequest_eq (currentTime : Time) (rid : Nat) (p : Osc.Packet) :
    processRequest (α := α) currentTime (rid, p) = tryCatch (do
      let needsScheduling ← dispatch (processPacketA rid p)
      dispatch (log (.phaseADone rid needsScheduling))
      if needsScheduling then
        if immediate p then dispatch (processPacketB rid currentTime currentTime p)
        else schedule (packetTime p) (rid, p))
      (fun e => dispatch (log (.unhandled e))) := by
  cases p with
  | message msg => rfl
  | bundle time elems =>
    by_cases ht : time = 1
    · simp [processRequest, immediate, ht]
    · simp [processRequest, immediate, ht, packetTime]

section Run

variable {β : Type} {x : DispatchM β} {env : Environment α} {d : Dispatcher}

theorem run_dispatch_ok {b : β} (h : x.run env.dispatcher = .ok b d) :
    (dispatch x).run env = .ok b { env with dispatcher := d } := by
  simp only [run_def] at h
  simp only [run_def, dispatch, h]

theorem run_dispatch_error {e : Exception} (h : x.run env.dispatcher = .error e d) :
    (dispatch x).run env = .error e { env with dispatcher := d } := by
  simp only [run_def] at h
  simp only [run_def, dispatch, h]

theorem run_dispatch_eq_ok {b : β} {env' : Environment α} (h : (dispatch x).run env = .ok b env') :
    ∃ d, x.run env.dispatcher = .ok b d ∧ env' = { env with dispatcher := d } := by
  rcases hx : x.run env.dispatcher with ⟨b', d⟩ | ⟨e, d⟩
  · rw [run_dispatch_ok hx] at h
    cases h
    exact ⟨d, rfl, rfl⟩
  · rw [run_dispatch_error hx] at h
    cases h

theorem endState_dispatch (x : DispatchM β) (env : Environment α) :
    endState ((dispatch x).run env) = { env with dispatcher := endState (x.run env.dispatcher) } := by
  rcases h : x.run env.dispatcher with ⟨b, d⟩ | ⟨e, d⟩
  · rw [run_dispatch_ok h]; rfl
  · rw [run_dispatch_error h]; rfl

theorem run_dispatch_log (e : Event) (env : Environment α) :
    (dispatch (log e)).run env = .ok () { env with dispatcher := env.dispatcher.record e } := rfl

theorem run_schedule_ok {time : Time} {request : Nat × Osc.Packet}
    {s : Scheduler (Nat × Osc.Packet)} (h : env.scheduler.push time request = .ok s) :
    (schedule time request).run env = .ok ()
      { env with scheduler := s, dispatcher := env.dispatcher.record (.pushed request.1 time) } := by
  simp only [schedule, run_def, bind, EStateM.bind, get, getThe, MonadStateOf.get, EStateM.get,
    h, set, MonadStateOf.set, EStateM.set]
  rfl

theorem run_schedule_error {time : Time} {request : Nat × Osc.Packet} {e : Exception}
    (h : env.scheduler.push time request = .error e) :
    (schedule time request).run env = .error e env := by
  simp only [schedule, run_def, bind, EStateM.bind, get, getThe, MonadStateOf.get, EStateM.get, h]
  rfl

end Run

/-! ## One request -/

section Request

variable {currentTime : Time} {rid : Nat} {p : Osc.Packet} {env : Environment α}
  {d₁ d₂ : Dispatcher}

/-- Phase A threw: `processRequests` reports it, and the request is done with. -/
theorem processRequest_of_phaseA_error {e : Exception}
    (hA : (processPacketA rid p).run env.dispatcher = .error e d₁) :
    (processRequest currentTime (rid, p)).run env =
      .ok () { env with dispatcher := d₁.record (.unhandled e) } := by
  rw [processRequest_eq, run_tryCatch_error (run_bind_error (run_dispatch_error hA) _)]
  rfl

/-- Phase A answered `false`: no Phase B, no push. -/
theorem processRequest_of_phaseA_false (hA : (processPacketA rid p).run env.dispatcher = .ok false d₁) :
    (processRequest currentTime (rid, p)).run env =
      .ok () { env with dispatcher := d₁.record (.phaseADone rid false) } := by
  rw [processRequest_eq, run_tryCatch_ok]
  rw [run_bind_ok (run_dispatch_ok hA), run_bind_ok (run_dispatch_log _ _)]
  rfl

/-- Phase A answered `true` for an immediate request: Phase B runs at once. -/
theorem processRequest_of_phaseB_ok (hA : (processPacketA rid p).run env.dispatcher = .ok true d₁)
    (hp : immediate p = true)
    (hB : (processPacketB rid currentTime currentTime p).run (d₁.record (.phaseADone rid true)) =
      .ok () d₂) :
    (processRequest currentTime (rid, p)).run env = .ok () { env with dispatcher := d₂ } := by
  rw [processRequest_eq, run_tryCatch_ok]
  rw [run_bind_ok (run_dispatch_ok hA), run_bind_ok (run_dispatch_log _ _)]
  simp only [if_true, hp]
  exact run_dispatch_ok hB

/-- Phase B of an immediate request threw: `processRequests` reports it. -/
theorem processRequest_of_phaseB_error {e : Exception}
    (hA : (processPacketA rid p).run env.dispatcher = .ok true d₁) (hp : immediate p = true)
    (hB : (processPacketB rid currentTime currentTime p).run (d₁.record (.phaseADone rid true)) =
      .error e d₂) :
    (processRequest currentTime (rid, p)).run env =
      .ok () { env with dispatcher := d₂.record (.unhandled e) } := by
  rw [processRequest_eq]
  refine (run_tryCatch_error (by
    rw [run_bind_ok (run_dispatch_ok hA), run_bind_ok (run_dispatch_log _ _)]
    simp only [if_true, hp]
    exact run_dispatch_error hB) _).trans (by rfl)

/-- Phase A answered `true` for a bundle in the future: it is pushed. -/
theorem processRequest_of_push_ok {s : Scheduler (Nat × Osc.Packet)}
    (hA : (processPacketA rid p).run env.dispatcher = .ok true d₁) (hp : immediate p = false)
    (hs : env.scheduler.push (packetTime p) (rid, p) = .ok s) :
    (processRequest currentTime (rid, p)).run env = .ok ()
      { env with
        scheduler := s
        dispatcher := (d₁.record (.phaseADone rid true)).record (.pushed rid (packetTime p)) } := by
  rw [processRequest_eq, run_tryCatch_ok]
  rw [run_bind_ok (run_dispatch_ok hA), run_bind_ok (run_dispatch_log _ _)]
  simp only [if_true, hp]
  exact run_schedule_ok hs

/-- The push overflowed: `processRequests` reports it, and the request is lost. -/
theorem processRequest_of_push_error {e : Exception}
    (hA : (processPacketA rid p).run env.dispatcher = .ok true d₁) (hp : immediate p = false)
    (hs : env.scheduler.push (packetTime p) (rid, p) = .error e) :
    (processRequest currentTime (rid, p)).run env = .ok ()
      { env with dispatcher := (d₁.record (.phaseADone rid true)).record (.unhandled e) } := by
  rw [processRequest_eq]
  refine (run_tryCatch_error (by
    rw [run_bind_ok (run_dispatch_ok hA), run_bind_ok (run_dispatch_log _ _)]
    simp only [if_true, hp]
    exact run_schedule_error hs) _).trans (by rfl)

/-- **`processRequests`' body always returns**, having changed the dispatcher and, by one push
of the request itself, the scheduler, and nothing else. -/
theorem processRequest_run (currentTime : Time) (rid : Nat) (p : Osc.Packet) (env : Environment α) :
    ∃ d, (processRequest currentTime (rid, p)).run env = .ok () { env with dispatcher := d } ∨
      ∃ s, env.scheduler.push (packetTime p) (rid, p) = .ok s ∧
        (processRequest currentTime (rid, p)).run env = .ok () { env with scheduler := s, dispatcher := d } := by
  rcases hA : (processPacketA rid p).run env.dispatcher with ⟨_ | _, d₁⟩ | ⟨e, d₁⟩
  · exact ⟨_, .inl (processRequest_of_phaseA_false hA)⟩
  · cases hp : immediate p
    · rcases hs : env.scheduler.push (packetTime p) (rid, p) with e | s
      · exact ⟨_, .inl (processRequest_of_push_error hA hp hs)⟩
      · exact ⟨_, .inr ⟨s, rfl, processRequest_of_push_ok hA hp hs⟩⟩
    · rcases hB : (processPacketB rid currentTime currentTime p).run (d₁.record (.phaseADone rid true))
        with ⟨⟨⟩, d₂⟩ | ⟨e, d₂⟩
      · exact ⟨_, .inl (processRequest_of_phaseB_ok hA hp hB)⟩
      · exact ⟨_, .inl (processRequest_of_phaseB_error hA hp hB)⟩
  · exact ⟨_, .inl (processRequest_of_phaseA_error hA)⟩

theorem processRequest_ok (currentTime : Time) (request : Nat × Osc.Packet) (env : Environment α) :
    ∃ env', (processRequest currentTime request).run env = .ok () env' := by
  obtain ⟨d, h | ⟨s, -, h⟩⟩ := processRequest_run currentTime request.1 request.2 env <;> exact ⟨_, h⟩

end Request

/-! ## One block -/

section Block

variable {currentTime : Time} {env e₁ : Environment α}

/-- One round of `processScheduler`'s loop with a due item at the top: dispatch it, pop it, go on. -/
theorem processScheduler_loop_due {currentTime nextTime : Time} {fuel : Nat}
    {item : ScheduleItem (Nat × Osc.Packet)} (htop : env.scheduler.top? = some item)
    (hdue : item.time ≤ nextTime) :
    (processScheduler.loop currentTime nextTime (fuel + 1)).run env =
      (dispatch (processPacketB item.request.1 item.time currentTime item.request.2) >>= fun _ =>
        modify (fun env : Environment α => { env with scheduler := env.scheduler.pop }) >>= fun _ =>
        processScheduler.loop currentTime nextTime fuel).run env := by
  simp only [processScheduler.loop, run_def, bind, EStateM.bind, get, getThe, MonadStateOf.get,
    EStateM.get, htop, hdue, if_true]

/-- The loop stops when the top item is not due, and when nothing is queued. -/
theorem processScheduler_loop_stop {currentTime nextTime : Time} {fuel : Nat}
    (hstop : ∀ item, env.scheduler.top? = some item → nextTime < item.time) :
    (processScheduler.loop currentTime nextTime (fuel + 1)).run env = .ok () env := by
  rcases htop : env.scheduler.top? with _ | item
  · simp only [processScheduler.loop, run_def, bind, EStateM.bind, get, getThe,
      MonadStateOf.get, EStateM.get, htop]
    rfl
  · simp only [processScheduler.loop, run_def, bind, EStateM.bind, get, getThe,
      MonadStateOf.get, EStateM.get, htop, not_le.2 (hstop item htop), if_false]
    rfl

/-- `processRequests` takes the whole queue, then processes each request it took. -/
theorem run_processRequests (currentTime : Time) (env : Environment α) :
    (processRequests currentTime).run env =
      (env.requests.forM (processRequest currentTime)).run { env with requests := [] } := rfl

/-- Draining a queue of one request is processing that request. -/
theorem processRequests_single {r : Nat × Osc.Packet} (h : env.requests = [r])
    (hr : (processRequest currentTime r).run { env with requests := [] } = .ok () e₁) :
    (processRequests currentTime).run env = .ok () e₁ := by
  rw [run_processRequests, h]
  exact (run_bind_ok hr _).trans rfl

/-- Draining a queue of two requests is processing one, then the other. -/
theorem processRequests_pair {r₁ r₂ : Nat × Osc.Packet} {e₂ : Environment α} (h : env.requests = [r₁, r₂])
    (hr₁ : (processRequest currentTime r₁).run { env with requests := [] } = .ok () e₁)
    (hr₂ : (processRequest currentTime r₂).run e₁ = .ok () e₂) :
    (processRequests currentTime).run env = .ok () e₂ := by
  rw [run_processRequests, h]
  exact (run_bind_ok hr₁ _).trans ((run_bind_ok hr₂ _).trans rfl)

/-- A scheduler holding one due item: `processScheduler` dispatches it and pops it. -/
theorem processScheduler_single {e : Environment α} {item : ScheduleItem (Nat × Osc.Packet)}
    {currentTime nextTime : Time} {d : Dispatcher} (hq : e.scheduler.queue = [item])
    (hdue : item.time ≤ nextTime)
    (hB : (processPacketB item.request.1 item.time currentTime item.request.2).run e.dispatcher =
      .ok () d) :
    (processScheduler currentTime nextTime).run e =
      .ok () { e with dispatcher := d, scheduler := e.scheduler.pop } := by
  show (processScheduler.loop currentTime nextTime e.scheduler.queue.length).run e = _
  rw [hq, List.length_singleton, processScheduler_loop_due (by simp [Scheduler.top?, hq]) hdue,
    run_bind_ok (run_dispatch_ok hB)]
  rfl

/-- A block with one immediate request queued and nothing scheduled ends with the trace its
Phase A and Phase B left. -/
theorem process_single_immediate [Add α] [Zero α] (env : Environment α) (currentTime : Time) (numFrames : Nat)
    (inputs outputs : Nat → Buffer α) (graph : List (BusOp Bus α)) {rid : Nat} {p : Osc.Packet}
    {d₁ d₂ : Dispatcher} (hreq : env.requests = [(rid, p)]) (hq : env.scheduler.queue = [])
    (hp : immediate p = true) (hA : (processPacketA rid p).run env.dispatcher = .ok true d₁)
    (hB : (processPacketB rid currentTime currentTime p).run (d₁.record (.phaseADone rid true)) =
      .ok () d₂) :
    ∃ env', (process currentTime numFrames inputs outputs graph).run env = .ok () env' ∧
      env'.dispatcher.trace = d₂.trace :=
  ⟨_, process_of_ok (processRequests_single hreq (processRequest_of_phaseB_ok hA hp hB))
    (processScheduler_nil (show ({ env with requests := [], dispatcher := d₂ } : Environment α).scheduler.queue = [] from hq) _ _), rfl⟩

end Block

end Environment

end Methcla
