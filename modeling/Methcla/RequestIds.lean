import Methcla.Routing
/-!
Requests are told apart by their numbers (`Engine.cpp`: `send`, `processRequests`,
`processScheduler`, `Scheduler`).

A request's trace entries carry the number it was sent under, so what the trace says about
one request over a run can be read off only if no other request carries that number,
wherever the two are: in the request queue, taken by a drain and not processed yet, or
waiting in the scheduler. `Numbered` says so, and every engine a run reaches has it
(`requests_numbered_run`).

Such properties read the request queue, the next request number, the scheduler and the
trace (`RequestView`), and `processRequests` changes these one request at a time after it has
taken the whole queue. An `EngineInvariant` is a property of the view indexed by the
requests a drain has taken and not processed yet; kept by each thing a run does, it holds
after every run (`EngineInvariant.run`).
-/

set_option autoImplicit false

namespace Methcla

namespace Environment

open Dispatcher

variable {α : Type}

/-- What the results about requests read of the engine. -/
structure RequestView where
  requests : List (Nat × Osc.Packet)
  nextRequest : Nat
  scheduler : Scheduler (Nat × Osc.Packet)
  trace : List Event

/-- The engine's `RequestView`. -/
def view (env : Environment α) : RequestView :=
  ⟨env.requests, env.nextRequest, env.scheduler, env.dispatcher.trace⟩

/-- A property of the view, indexed by the requests a drain has taken and not processed yet,
that everything a run does keeps. -/
structure EngineInvariant (I : List (Nat × Osc.Packet) → RequestView → Prop) : Prop where
  send : ∀ v packet, I [] v →
    I [] { v with requests := v.requests ++ [(v.nextRequest, packet)], nextRequest := v.nextRequest + 1 }
  drain : ∀ v, I [] v → I v.requests { v with requests := [] }
  request : ∀ {α : Type} (currentTime : Time) a pending (env : Environment α),
    I (a :: pending) env.view → I pending (endState ((processRequest currentTime a).run env)).view
  round : ∀ {α : Type} (currentTime : Time) item (env : Environment α), env.scheduler.top? = some item →
    I [] env.view → I [] (endState ((dispatch (processPacketB item.request.1 item.time currentTime
      item.request.2)).run env)).view
  pop : ∀ v, I [] v → I [] { v with scheduler := v.scheduler.pop }

namespace EngineInvariant

variable {I : List (Nat × Osc.Packet) → RequestView → Prop} (hI : EngineInvariant I)
include hI

theorem processRequests (currentTime : Time) :
    Keeps (fun env : Environment α => I [] env.view) (Environment.processRequests currentTime) := by
  intro env h
  obtain ⟨env', hrun, hI'⟩ := run_forM_pending (I := fun pending (env : Environment α) => I pending env.view)
    (processRequest_ok currentTime) (hI.request currentTime) env.requests { env with requests := [] }
    (hI.drain _ h)
  show I [] (endState ((env.requests.forM (processRequest currentTime)).run { env with requests := [] })).view
  rw [hrun]
  exact hI'

theorem processScheduler_loop (currentTime nextTime : Time) (fuel : Nat) :
    Keeps (fun env : Environment α => I [] env.view) (processScheduler.loop currentTime nextTime fuel) := by
  induction fuel with
  | zero => exact Keeps.pure _
  | succ fuel ih =>
    refine Keeps.get_bind fun env h => ?_
    split
    · exact h
    · rename_i item htop
      split
      · have h₁ := hI.round currentTime item env htop h
        rcases hd : (dispatch (processPacketB item.request.1 item.time currentTime item.request.2)).run env
          with ⟨⟨⟩, env₁⟩ | ⟨e, env₁⟩ <;> rw [hd] at h₁
        · rw [run_bind_ok hd]
          exact Keeps.bind (P := fun env : Environment α => I [] env.view)
            (Keeps.modify fun _ hs => hI.pop _ hs) (fun _ => ih) env₁ h₁
        · rw [run_bind_error hd]
          exact h₁
      · exact h

theorem process [Add α] [Zero α] (currentTime : Time) (numFrames : Nat)
    (inputs outputs : Nat → Buffer α) (graph : List (BusOp Bus α)) :
    Keeps (fun env : Environment α => I [] env.view)
      (Environment.process currentTime numFrames inputs outputs graph) :=
  Keeps.bind (hI.processRequests _) fun _ => Keeps.bind Keeps.get fun _ =>
    Keeps.bind (Keeps.bind Keeps.get fun _ => hI.processScheduler_loop _ _ _) fun _ =>
    Keeps.bind (Keeps.modify fun _ h => h) fun _ => Keeps.bind (Keeps.modify fun _ h => h) fun _ =>
    Keeps.bind (Keeps.modify fun _ h => h) fun _ => Keeps.bind (Keeps.modify fun _ h => h) fun _ =>
    Keeps.modify fun _ h => h

/-- **One input keeps the invariant.** -/
theorem step [Add α] [Zero α] {env : Environment α} (h : I [] env.view) (i : Input α) :
    I [] (env.step i).view := by
  cases i with
  | send packet =>
    show I [] (env.send packet).view
    unfold Environment.send
    split
    · exact hI.send _ packet h
    · exact h
  | registerSynthDef => exact h
  | workerTake => exact h
  | workerPerform => exact h
  | process currentTime numFrames inputs outputs graph =>
    exact hI.process currentTime numFrames inputs outputs graph env h

/-- **A run keeps the invariant.** -/
theorem run [Add α] [Zero α] {env : Environment α} (h : I [] env.view) (inputs : List (Input α)) :
    I [] (env.run inputs).view := by
  induction inputs generalizing env with
  | nil => exact h
  | cons i is ih => exact ih (hI.step h i)

end EngineInvariant

/-! ## Request numbers -/

/-- Requests are known by their numbers: the requests still waiting to be processed carry
increasing numbers below the next one, every scheduled item a number below all of theirs,
and no two scheduled items the same number. -/
structure Numbered (waiting : List (Nat × Osc.Packet)) (nextRequest : Nat)
    (queue : List (ScheduleItem (Nat × Osc.Packet))) : Prop where
  waiting_sorted : (waiting.map Prod.fst).Sorted (· < ·)
  waiting_lt : ∀ a ∈ waiting, a.1 < nextRequest
  queued_lt : ∀ q ∈ queue, q.request.1 < nextRequest
  queued_lt_waiting : ∀ q ∈ queue, ∀ a ∈ waiting, q.request.1 < a.1
  queued_nodup : (queue.map (·.request.1)).Nodup

namespace Numbered

variable {waiting waiting' : List (Nat × Osc.Packet)} {n : Nat}
  {queue queue' : List (ScheduleItem (Nat × Osc.Packet))}

theorem sublist (h : Numbered waiting n queue) (hw : List.Sublist waiting' waiting) (hq : List.Sublist queue' queue) :
    Numbered waiting' n queue' where
  waiting_sorted := h.waiting_sorted.sublist (hw.map _)
  waiting_lt a ha := h.waiting_lt a (hw.subset ha)
  queued_lt q hq' := h.queued_lt q (hq.subset hq')
  queued_lt_waiting q hq' a ha := h.queued_lt_waiting q (hq.subset hq') a (hw.subset ha)
  queued_nodup := h.queued_nodup.sublist (hq.map _)

/-- `send` queues a request under the next number. -/
theorem send (h : Numbered waiting n queue) (packet : Osc.Packet) :
    Numbered (waiting ++ [(n, packet)]) (n + 1) queue where
  waiting_sorted := by
    rw [List.map_append]
    refine List.pairwise_append.2 ⟨h.waiting_sorted, List.sorted_singleton _, fun a ha b hb => ?_⟩
    obtain ⟨a', ha', rfl⟩ := List.mem_map.1 ha
    obtain rfl : b = n := by simpa using hb
    exact h.waiting_lt a' ha'
  waiting_lt a ha := by
    rcases List.mem_append.1 ha with ha | ha
    · exact (h.waiting_lt a ha).trans (Nat.lt_succ_self n)
    · obtain rfl : a = (n, packet) := by simpa using ha
      exact Nat.lt_succ_self n
  queued_lt q hq := (h.queued_lt q hq).trans (Nat.lt_succ_self n)
  queued_lt_waiting q hq a ha := by
    rcases List.mem_append.1 ha with ha | ha
    · exact h.queued_lt_waiting q hq a ha
    · obtain rfl : a = (n, packet) := by simpa using ha
      exact h.queued_lt q hq
  queued_nodup := h.queued_nodup

/-- Pushing the first waiting request takes it out of the waiting ones. -/
theorem push {a : Nat × Osc.Packet} {item : ScheduleItem (Nat × Osc.Packet)}
    (h : Numbered (a :: waiting) n queue) (hq : queue'.Perm (item :: queue)) (ha : item.request.1 = a.1) :
    Numbered waiting n queue' where
  waiting_sorted := (List.sorted_cons.1 h.waiting_sorted).2
  waiting_lt b hb := h.waiting_lt b (.tail _ hb)
  queued_lt q hq' := by
    rcases List.mem_cons.1 (hq.subset hq') with rfl | hq'
    · rw [ha]; exact h.waiting_lt a (.head _)
    · exact h.queued_lt q hq'
  queued_lt_waiting q hq' b hb := by
    rcases List.mem_cons.1 (hq.subset hq') with rfl | hq'
    · rw [ha]; exact (List.sorted_cons.1 h.waiting_sorted).1 _ (List.mem_map_of_mem _ hb)
    · exact h.queued_lt_waiting q hq' b (.tail _ hb)
  queued_nodup := by
    refine ((hq.map _).nodup_iff).2 ?_
    rw [List.map_cons, List.nodup_cons]
    refine ⟨fun hmem => ?_, h.queued_nodup⟩
    obtain ⟨q, hq', hqa⟩ := List.mem_map.1 hmem
    have := h.queued_lt_waiting q hq' a (.head _)
    omega

/-- No two scheduled items carry the same number. -/
theorem eq_of_rid_eq (h : Numbered waiting n queue) {q q' : ScheduleItem (Nat × Osc.Packet)}
    (hq : q ∈ queue) (hq' : q' ∈ queue) (heq : q.request.1 = q'.request.1) : q = q' :=
  List.inj_on_of_nodup_map h.queued_nodup hq hq' heq

end Numbered

/-- `Numbered` for a view, with the requests a drain has taken in front of the queue's. -/
def RequestsNumbered (pending : List (Nat × Osc.Packet)) (v : RequestView) : Prop :=
  Numbered (pending ++ v.requests) v.nextRequest v.scheduler.queue

theorem requestsNumbered_invariant : EngineInvariant RequestsNumbered where
  send _ packet h := Numbered.send h packet
  drain v h := by
    rw [RequestsNumbered, List.append_nil]
    exact h
  request currentTime a pending env h := by
    obtain ⟨d, hrun | ⟨s, hs, hrun⟩⟩ := processRequest_run currentTime a.1 a.2 env <;>
      rw [hrun, endState_ok]
    · exact Numbered.sublist h (List.sublist_cons_self _ _) (List.Sublist.refl _)
    · exact Numbered.push h (Scheduler.push_queue_perm hs) rfl
  round currentTime item env _ h := by
    rw [endState_dispatch]
    exact h
  pop _ h := Numbered.sublist h (List.Sublist.refl _) (List.tail_sublist _)

theorem requestsNumbered_init (options : Options) (data : Bus → Buffer α) (nodes : NodeMap) :
    RequestsNumbered [] (init options data nodes).view :=
  ⟨List.sorted_nil, nofun, nofun, nofun, List.nodup_nil⟩

/-- **Every engine a run reaches tells its requests apart by their numbers.** -/
theorem requests_numbered_run [Add α] [Zero α] {options : Options} {data : Bus → Buffer α}
    {env : Environment α} (h : new options data = .ok env) (inputs : List (Input α)) :
    RequestsNumbered [] (env.run inputs).view := by
  obtain ⟨nodes, _, rfl⟩ := new_ok h
  exact requestsNumbered_invariant.run (requestsNumbered_init options data nodes) inputs

end Environment

end Methcla
