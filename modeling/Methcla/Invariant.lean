import Methcla.Process
/-!
Properties of the dispatcher that hold over whole runs (`Engine.cpp`: `processRequests`,
`processScheduler`, `process`).

Within a run the `Dispatcher` changes in five ways only: a Phase-A entry, a Phase-B entry,
an event logged by `processRequests` or the scheduler (never an activation), a step of the
worker channel (`m_worker.perform()` in a block, or the worker thread's own), and a change of
the synth definitions. A property that each of these keeps (`RunInvariant`) holds after every
dispatch, every block and every run (`RunInvariant.run`). Most such properties hold whatever
the channel holds (`DispatchInvariant`): the root's registration and the shape of the trace,
each proved once, for the five ways, in its own module. The ownership of the arena's blocks
is one that depends on the channel (`Methcla.Arena`).
-/

set_option autoImplicit false

namespace Methcla

/-- Whether an event is an activation. -/
def Event.isActivate : Event → Bool
  | .activate .. => true
  | _ => false

/-- A dispatch keeps every property of the dispatcher that its program keeps. -/
theorem Environment.keeps_dispatcher {α β : Type} {Q : Dispatcher → Prop} {x : DispatchM β}
    (hx : Keeps Q x) : Keeps (fun env : Environment α => Q env.dispatcher) (Environment.dispatch x) :=
  Environment.keeps_dispatch fun _ _ => hx

namespace Dispatcher

/-! ## The programs of one request -/

section OneRequest

variable {Q : Dispatcher → Prop} (rid : Nat)

theorem keeps_processMessagesA (hA : ∀ msg, Keeps Q (processMessageA rid msg)) (acc : Bool)
    (msgs : List Osc.Message) : Keeps Q (processMessagesA rid acc msgs) := by
  induction msgs generalizing acc with
  | nil => exact Keeps.pure _
  | cons msg msgs ih => exact Keeps.bind (hA msg) fun _ => ih _

theorem keeps_processPacketA (hA : ∀ msg, Keeps Q (processMessageA rid msg)) (p : Osc.Packet) :
    Keeps Q (processPacketA rid p) := by
  rw [processPacketA_eq]
  exact keeps_processMessagesA rid hA false p.messages

theorem keeps_processPacketB {scheduleTime currentTime : Time}
    (hB : ∀ msg, Keeps Q (processMessageB rid msg scheduleTime currentTime)) (p : Osc.Packet) :
    Keeps Q (processPacketB rid scheduleTime currentTime p) := by
  rw [processPacketB_eq]
  exact Keeps.forM fun msg _ => hB msg

end OneRequest

end Dispatcher

namespace Environment

open Dispatcher

variable {α : Type} {Q : Dispatcher → Prop}

theorem keeps_schedule {time : Time} {request : Nat × Osc.Packet}
    (hpushed : Keeps Q (log (.pushed request.1 time))) :
    Keeps (fun env : Environment α => Q env.dispatcher) (schedule time request) :=
  Keeps.get_bind fun env h => by
    split
    · exact keeps_dispatcher hpushed { env with scheduler := _ } h
    · exact h

/-- **`processRequests`' body for request `rid` keeps what that request's dispatches keep**:
Phase A and Phase B of its messages, and the events `processRequests` logs for it. -/
theorem keeps_processRequest (currentTime : Time) (rid : Nat) (p : Osc.Packet)
    (hA : ∀ msg, Keeps Q (processMessageA rid msg))
    (hB : ∀ msg, Keeps Q (processMessageB rid msg currentTime currentTime))
    (hdone : ∀ b, Keeps Q (log (.phaseADone rid b)))
    (hpushed : ∀ time, Keeps Q (log (.pushed rid time)))
    (hunhandled : ∀ e, Keeps Q (log (.unhandled e))) :
    Keeps (fun env : Environment α => Q env.dispatcher) (processRequest currentTime (rid, p)) := by
  unfold processRequest
  refine Keeps.tryCatch ?_ fun _ => keeps_dispatcher (hunhandled _)
  split
  all_goals repeat' first
    | with_reducible exact keeps_dispatcher (keeps_processPacketA rid hA _)
    | with_reducible exact keeps_dispatcher (keeps_processPacketB rid hB _)
    | with_reducible exact keeps_dispatcher (hA _)
    | with_reducible exact keeps_dispatcher (hB _)
    | with_reducible exact keeps_dispatcher (hdone _)
    | with_reducible exact keeps_schedule (hpushed _)
    | with_reducible exact Keeps.pure _
    | with_reducible apply Keeps.ite | with_reducible apply Keeps.bind | intro _

end Environment

namespace Dispatcher

/-- A property of the dispatcher that every way a run changes the dispatcher keeps: a Phase-A
entry, a Phase-B entry, an event other than an activation, a step of the worker channel, and a
change of the synth definitions. -/
structure RunInvariant (Q : Dispatcher → Prop) : Prop where
  messageA : ∀ rid msg, Keeps Q (processMessageA rid msg)
  messageB : ∀ rid msg scheduleTime currentTime,
    Keeps Q (processMessageB rid msg scheduleTime currentTime)
  log : ∀ e : Event, e.isActivate = false → Keeps Q (log e)
  channelStep : ∀ d (s : Channel.Step), Q d → Q { d with channel := d.channel.step s }
  synthDefs : ∀ d synthDefs, Q d → Q { d with synthDefs := synthDefs }

/-- A property of the dispatcher that every way a run changes the dispatcher keeps. -/
structure DispatchInvariant (Q : Dispatcher → Prop) : Prop where
  messageA : ∀ rid msg, Keeps Q (processMessageA rid msg)
  messageB : ∀ rid msg scheduleTime currentTime,
    Keeps Q (processMessageB rid msg scheduleTime currentTime)
  log : ∀ e : Event, e.isActivate = false → Keeps Q (log e)
  channel : ∀ d c, Q d → Q { d with channel := c }
  synthDefs : ∀ d synthDefs, Q d → Q { d with synthDefs := synthDefs }

/-- A property that holds whatever the channel is holds whatever a channel step makes of it. -/
theorem DispatchInvariant.toRunInvariant {Q : Dispatcher → Prop} (hQ : DispatchInvariant Q) :
    RunInvariant Q :=
  ⟨hQ.messageA, hQ.messageB, hQ.log, fun d _ h => hQ.channel d _ h, hQ.synthDefs⟩

namespace RunInvariant

variable {Q : Dispatcher → Prop} (hQ : RunInvariant Q)
include hQ

theorem packetA (rid : Nat) (p : Osc.Packet) : Keeps Q (processPacketA rid p) :=
  keeps_processPacketA rid (hQ.messageA rid) p

theorem packetB (rid : Nat) (scheduleTime currentTime : Time) (p : Osc.Packet) :
    Keeps Q (processPacketB rid scheduleTime currentTime p) :=
  keeps_processPacketB rid (hQ.messageB rid · scheduleTime currentTime) p

/-- Any sequence of channel steps keeps the invariant. -/
theorem channelSteps (steps : List Channel.Step) {d : Dispatcher} (h : Q d) :
    Q { d with channel := steps.foldl Channel.step d.channel } := by
  induction steps generalizing d with
  | nil => exact h
  | cons s steps ih => exact ih (hQ.channelStep d s h)

/-! ## Lifted to the engine -/

open Environment

variable {α : Type}

theorem processRequest (currentTime : Time) (request : Nat × Osc.Packet) :
    Keeps (fun env : Environment α => Q env.dispatcher)
      (Environment.processRequest currentTime request) :=
  keeps_processRequest currentTime request.1 request.2 (hQ.messageA _)
    (hQ.messageB _ · currentTime currentTime) (fun _ => hQ.log _ rfl) (fun _ => hQ.log _ rfl)
    (fun _ => hQ.log _ rfl)

theorem processRequests (currentTime : Time) :
    Keeps (fun env : Environment α => Q env.dispatcher) (Environment.processRequests currentTime) :=
  Keeps.bind Keeps.get fun _ => Keeps.bind (Keeps.modify fun _ h => h) fun _ =>
    Keeps.forM fun r _ => hQ.processRequest currentTime r

theorem processScheduler_loop (currentTime nextTime : Time) (fuel : Nat) :
    Keeps (fun env : Environment α => Q env.dispatcher)
      (processScheduler.loop currentTime nextTime fuel) := by
  induction fuel with
  | zero => exact Keeps.pure _
  | succ fuel ih =>
    refine Keeps.bind Keeps.get fun _ => ?_
    split
    · exact Keeps.pure _
    · exact Keeps.ite (Keeps.bind (keeps_dispatcher (hQ.packetB _ _ _ _)) fun _ =>
        Keeps.bind (Keeps.modify fun _ h => h) fun _ => ih) (Keeps.pure _)

theorem process [Add α] [Zero α] (currentTime : Time) (numFrames : Nat)
    (inputs outputs : Nat → Buffer α) (graph : List (BusOp Bus α)) :
    Keeps (fun env : Environment α => Q env.dispatcher)
      (Environment.process currentTime numFrames inputs outputs graph) :=
  Keeps.bind (hQ.processRequests _) fun _ => Keeps.bind Keeps.get fun _ =>
    Keeps.bind (Keeps.bind Keeps.get fun _ => hQ.processScheduler_loop _ _ _) fun _ =>
    Keeps.bind (Keeps.modify fun _ h => hQ.channelSteps _ h) fun _ =>
    Keeps.bind (Keeps.modify fun _ h => h) fun _ => Keeps.bind (Keeps.modify fun _ h => h) fun _ =>
    Keeps.bind (Keeps.modify fun _ h => h) fun _ => Keeps.modify fun _ h => h

/-- **One input keeps the invariant.** -/
theorem step [Add α] [Zero α] {env : Environment α} (h : Q env.dispatcher) (i : Input α) :
    Q (env.step i).dispatcher := by
  cases i with
  | send packet => simpa [Environment.step] using h
  | registerSynthDef synthDef => exact hQ.synthDefs _ _ h
  | workerTake => exact hQ.channelStep _ _ h
  | workerPerform => exact hQ.channelStep _ _ h
  | process currentTime numFrames inputs outputs graph =>
    exact hQ.process currentTime numFrames inputs outputs graph env h

/-- **A run keeps the invariant.** -/
theorem run [Add α] [Zero α] {env : Environment α} (h : Q env.dispatcher) (inputs : List (Input α)) :
    Q (env.run inputs).dispatcher := by
  induction inputs generalizing env with
  | nil => exact h
  | cons i is ih => exact ih (hQ.step h i)

end RunInvariant

namespace DispatchInvariant

variable {Q : Dispatcher → Prop} (hQ : DispatchInvariant Q)
include hQ

theorem packetA (rid : Nat) (p : Osc.Packet) : Keeps Q (processPacketA rid p) :=
  hQ.toRunInvariant.packetA rid p

open Environment

variable {α : Type}

theorem processRequest (currentTime : Time) (request : Nat × Osc.Packet) :
    Keeps (fun env : Environment α => Q env.dispatcher)
      (Environment.processRequest currentTime request) :=
  hQ.toRunInvariant.processRequest currentTime request

theorem processRequests (currentTime : Time) :
    Keeps (fun env : Environment α => Q env.dispatcher) (Environment.processRequests currentTime) :=
  hQ.toRunInvariant.processRequests currentTime

theorem processScheduler_loop (currentTime nextTime : Time) (fuel : Nat) :
    Keeps (fun env : Environment α => Q env.dispatcher)
      (processScheduler.loop currentTime nextTime fuel) :=
  hQ.toRunInvariant.processScheduler_loop currentTime nextTime fuel

/-- **A run keeps the invariant.** -/
theorem run [Add α] [Zero α] {env : Environment α} (h : Q env.dispatcher) (inputs : List (Input α)) :
    Q (env.run inputs).dispatcher :=
  hQ.toRunInvariant.run h inputs

end DispatchInvariant

end Dispatcher

end Methcla
