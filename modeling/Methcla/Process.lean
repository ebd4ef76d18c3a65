import Methcla.Dispatch
/-!
`Environment::process` (`Engine.cpp`): one audio block, and runs of blocks.

A block drains the request queue (`processRequests`), dispatches the scheduled requests due
before the block ends (`processScheduler`), runs the commands the worker sent
(`m_worker.perform()`), points the external buses at the driver's buffers, runs the DSP
graph, zeroes the outputs nobody wrote, and advances the epoch.

The DSP graph (`m_rootNode->process`) is code that is not under src/; what it does to the
buses is given as the list of connection reads and writes it makes, so every result below
holds for every graph. `processScheduler`'s `while` loop is run with the number of queued
items as fuel: each round pops one item and dispatch never pushes, so the fuel is enough
(`processScheduler_loop_routing` in `Block`).

A run is any sequence of client sends, synth definition registrations, steps of the two
worker threads and blocks. A block whose `process` throws leaves the engine as the throw
found it, and the run goes on from there.
-/

set_option autoImplicit false

namespace Methcla

namespace Environment

open Dispatcher

variable {α : Type}

/-- Modelled from the spec (§6): `methcla_time_from_uint64(t)`, an NTP time stamp with the
seconds in its high 32 bits and the fraction in its low 32 bits. The code returns a `double`,
which rounds the fraction once the seconds pass `2^21`; the model keeps the exact quotient. -/
def methcla_time_from_uint64 (t : UInt64) : Time := (t.toNat : Time) / 2 ^ 32

/-- `m_impl->m_scheduler.push(time, request)`; the ghost trace records the push. -/
def schedule (time : Time) (request : Nat × Osc.Packet) : EnvM α Unit := do
  let env ← get
  match env.scheduler.push time request with
  | .ok s =>
    set { env with scheduler := s }
    dispatch (log (.pushed request.1 time))
  | .error e => throw e

/-- The body of `processRequests`' loop for one drained request. -/
def processRequest (currentTime : Time) : Nat × Osc.Packet → EnvM α Unit
  | (rid, packet) =>
    tryCatch
      (match packet with
        | .bundle time _ => do
          let needsScheduling ← dispatch (processPacketA rid packet)
          dispatch (log (.phaseADone rid needsScheduling))
          if needsScheduling then
            if time = 1 then dispatch (processPacketB rid currentTime currentTime packet)
            else schedule (methcla_time_from_uint64 time) (rid, packet)
        | .message msg => do
          let needsScheduling ← dispatch (processMessageA rid msg)
          dispatch (log (.phaseADone rid needsScheduling))
          if needsScheduling then
            dispatch (processMessageB rid msg currentTime currentTime))
      (fun e => dispatch (log (.unhandled e)))

/-- `processRequests(currentTime)`: every request queued, in order. -/
def processRequests (currentTime : Time) : EnvM α Unit := do
  let requests := (← get).requests
  modify fun env => { env with requests := [] }
  requests.forM (processRequest currentTime)

/-- The `while` loop of `processScheduler(currentTime, nextTime)`, with `fuel` rounds. -/
def processScheduler.loop (currentTime nextTime : Time) : Nat → EnvM α Unit
  | 0 => pure ()
  | fuel + 1 => do
    match (← get).scheduler.top? with
    | none => pure ()
    | some item =>
      if item.time ≤ nextTime then
        dispatch (processPacketB item.request.1 item.time currentTime item.request.2)
        modify fun env => { env with scheduler := env.scheduler.pop }
        processScheduler.loop currentTime nextTime fuel
      else pure ()

/-- `processScheduler(currentTime, nextTime)`. -/
def processScheduler (currentTime nextTime : Time) : EnvM α Unit := do
  processScheduler.loop currentTime nextTime (← get).scheduler.queue.length

/-- Modelled from the spec (§4.3): `m_impl->m_worker.perform()` runs, on the audio thread,
each command the worker had sent. -/
def performWorker (env : Environment α) : Environment α :=
  let c := env.dispatcher.channel
  { env with dispatcher := { env.dispatcher with
      channel := (List.replicate c.fromWorker.length Channel.Step.audio_perform).foldl Channel.step c } }

/-- The loops that point the external buses at the driver's buffers: an input gets the
samples and the current epoch, an output gets the buffer its writes go to. -/
def connectBuses (inputs outputs : Nat → Buffer α) (env : Environment α) : Environment α :=
  { env with audio := { env.audio with bus := fun b =>
      match b with
      | .externalAudioInput i =>
        if i < env.numExternalAudioInputs then ⟨inputs i, env.audio.epoch⟩ else env.audio.bus b
      | .externalAudioOutput i =>
        if i < env.numExternalAudioOutputs then { env.audio.bus b with data := outputs i }
        else env.audio.bus b
      | .audioBus _ => env.audio.bus b } }

@[simp] theorem connectBuses_epoch (inputs outputs : Nat → Buffer α) (env : Environment α) :
    (connectBuses inputs outputs env).audio.epoch = env.audio.epoch := rfl

@[simp] theorem connectBuses_numExternalAudioOutputs (inputs outputs : Nat → Buffer α)
    (env : Environment α) :
    (connectBuses inputs outputs env).numExternalAudioOutputs = env.numExternalAudioOutputs := rfl

/-- `m_rootNode->process(numFrames)`: the graph's bus accesses, in order. -/
def processGraph [Add α] (numFrames : Nat) (graph : List (BusOp Bus α)) (env : Environment α) :
    Environment α :=
  { env with audio := graph.foldl (BusOp.run numFrames) env.audio }

@[simp] theorem processGraph_audio [Add α] (numFrames : Nat) (graph : List (BusOp Bus α))
    (env : Environment α) :
    (processGraph numFrames graph env).audio = graph.foldl (BusOp.run numFrames) env.audio := rfl

@[simp] theorem processGraph_numExternalAudioOutputs [Add α] (numFrames : Nat)
    (graph : List (BusOp Bus α)) (env : Environment α) :
    (processGraph numFrames graph env).numExternalAudioOutputs = env.numExternalAudioOutputs := rfl

/-- The loop that zeroes each output whose bus was not written in this epoch. -/
def zeroOutputs [Zero α] (numFrames : Nat) (env : Environment α) : Environment α :=
  { env with audio := { env.audio with bus := fun b =>
      match b with
      | .externalAudioOutput i =>
        if i < env.numExternalAudioOutputs ∧ (env.audio.bus b).epoch ≠ env.audio.epoch then
          { env.audio.bus b with data := Buffer.zero numFrames (env.audio.bus b).data }
        else env.audio.bus b
      | _ => env.audio.bus b } }

/-- `m_impl->m_epoch++`. -/
def advanceEpoch (env : Environment α) : Environment α :=
  { env with audio := { env.audio with epoch := env.audio.epoch + 1 } }

/-- `Environment::process(currentTime, numFrames, inputs, outputs)`, with the graph's bus
accesses. What the driver finds in `outputs[i]` afterwards is `outputs i` below. -/
def process [Add α] [Zero α] (currentTime : Time) (numFrames : Nat)
    (inputs outputs : Nat → Buffer α) (graph : List (BusOp Bus α)) : EnvM α Unit := do
  processRequests currentTime
  processScheduler currentTime (currentTime + numFrames / (← get).dispatcher.sampleRate)
  modify performWorker
  modify (connectBuses inputs outputs)
  modify (processGraph numFrames graph)
  modify (zeroOutputs numFrames)
  modify advanceEpoch

/-- **What a block that returns did**: it drained the requests, dispatched the scheduler,
and ran the audio steps on the state that left. -/
theorem process_ok [Add α] [Zero α] {env env' : Environment α} {currentTime : Time}
    {numFrames : Nat} {inputs outputs : Nat → Buffer α} {graph : List (BusOp Bus α)}
    (h : (process currentTime numFrames inputs outputs graph).run env = .ok () env') :
    ∃ e₁ e₂, (processRequests currentTime).run env = .ok () e₁ ∧
      (processScheduler currentTime (currentTime + numFrames / e₁.dispatcher.sampleRate)).run e₁ =
        .ok () e₂ ∧
      env' = advanceEpoch (zeroOutputs numFrames
        (processGraph numFrames graph (connectBuses inputs outputs (performWorker e₂)))) := by
  simp only [process, run_def, bind, EStateM.bind, get, getThe, MonadStateOf.get, EStateM.get,
    modify, modifyGet, MonadStateOf.modifyGet, EStateM.modifyGet] at h
  split at h
  · split at h
    · cases h
      exact ⟨_, _, ‹_›, ‹_›, rfl⟩
    · cases h
  · cases h

/-- **What a block that throws did**: the exception came out of `processRequests` or
`processScheduler`, and the audio steps did not run. -/
theorem process_error [Add α] [Zero α] {env env' : Environment α} {currentTime : Time}
    {numFrames : Nat} {inputs outputs : Nat → Buffer α} {graph : List (BusOp Bus α)}
    {e : Exception} (h : (process currentTime numFrames inputs outputs graph).run env = .error e env') :
    (processRequests currentTime).run env = .error e env' ∨ ∃ e₁,
      (processRequests currentTime).run env = .ok () e₁ ∧
      (processScheduler currentTime (currentTime + numFrames / e₁.dispatcher.sampleRate)).run e₁ =
        .error e env' := by
  simp only [process, run_def, bind, EStateM.bind, get, getThe, MonadStateOf.get, EStateM.get,
    modify, modifyGet, MonadStateOf.modifyGet, EStateM.modifyGet] at h
  split at h
  · split at h
    · cases h
    · cases h
      exact .inr ⟨_, ‹_›, ‹_›⟩
  · cases h
    exact .inl ‹_›

/-- `processScheduler` has no `catch`: when the dispatch of the item at the top throws, the
loop stops there, before `pop`, and the exception leaves `processScheduler`. -/
theorem processScheduler_loop_throw {env : Environment α} {item : ScheduleItem (Nat × Osc.Packet)}
    {currentTime nextTime : Time} {e : Exception} {d : Dispatcher} (fuel : Nat)
    (htop : env.scheduler.top? = some item) (hdue : item.time ≤ nextTime)
    (hB : (processPacketB item.request.1 item.time currentTime item.request.2).run env.dispatcher =
      .error e d) :
    (processScheduler.loop currentTime nextTime (fuel + 1)).run env =
      .error e { env with dispatcher := d } := by
  simp only [run_def] at hB
  simp only [processScheduler.loop, run_def, bind, EStateM.bind, get, getThe,
    MonadStateOf.get, EStateM.get, htop, hdue, if_true, dispatch, hB]

/-- With no request queued, `processRequests` does nothing. -/
theorem processRequests_nil {env : Environment α} (h : env.requests = []) (currentTime : Time) :
    (processRequests currentTime).run env = .ok () env := by
  cases env
  subst h
  rfl

/-- With nothing scheduled, `processScheduler` does nothing. -/
theorem processScheduler_nil {env : Environment α} (h : env.scheduler.queue = [])
    (currentTime nextTime : Time) : (processScheduler currentTime nextTime).run env = .ok () env := by
  show (processScheduler.loop currentTime nextTime env.scheduler.queue.length).run env = _
  rw [h]
  rfl

/-- **A block whose first half returns** runs the audio steps on the state it left. -/
theorem process_of_ok [Add α] [Zero α] {env e₁ e₂ : Environment α} {currentTime : Time}
    {numFrames : Nat} {inputs outputs : Nat → Buffer α} {graph : List (BusOp Bus α)}
    (h₁ : (processRequests currentTime).run env = .ok () e₁)
    (h₂ : (processScheduler currentTime (currentTime + numFrames / e₁.dispatcher.sampleRate)).run e₁ =
      .ok () e₂) :
    (process currentTime numFrames inputs outputs graph).run env = .ok () (advanceEpoch
      (zeroOutputs numFrames (processGraph numFrames graph (connectBuses inputs outputs (performWorker e₂))))) := by
  simp only [run_def] at h₁ h₂
  simp only [process, run_def, bind, EStateM.bind, h₁, get, getThe, MonadStateOf.get,
    EStateM.get, h₂, modify, modifyGet, MonadStateOf.modifyGet, EStateM.modifyGet]

/-- `processScheduler` whose top item is due and whose Phase B throws throws that exception,
with the item still queued. -/
theorem processScheduler_throw {env : Environment α} {item : ScheduleItem (Nat × Osc.Packet)}
    {currentTime nextTime : Time} {e : Exception} {d : Dispatcher}
    (htop : env.scheduler.top? = some item) (hdue : item.time ≤ nextTime)
    (hB : (processPacketB item.request.1 item.time currentTime item.request.2).run env.dispatcher =
      .error e d) :
    (processScheduler currentTime nextTime).run env = .error e { env with dispatcher := d } := by
  obtain ⟨rest, hq⟩ : ∃ rest, env.scheduler.queue = item :: rest := List.head?_eq_some_iff.1 htop
  show (processScheduler.loop currentTime nextTime env.scheduler.queue.length).run env = _
  rw [hq, List.length_cons]
  exact processScheduler_loop_throw rest.length htop hdue hB

/-- **A block whose scheduler throws** throws that exception before the audio steps. -/
theorem process_of_scheduler_error [Add α] [Zero α] {env e₁ e₂ : Environment α} {currentTime : Time}
    {numFrames : Nat} {inputs outputs : Nat → Buffer α} {graph : List (BusOp Bus α)} {e : Exception}
    (h₁ : (processRequests currentTime).run env = .ok () e₁)
    (h₂ : (processScheduler currentTime (currentTime + numFrames / e₁.dispatcher.sampleRate)).run e₁ =
      .error e e₂) :
    (process currentTime numFrames inputs outputs graph).run env = .error e e₂ := by
  simp only [run_def] at h₁ h₂
  simp only [process, run_def, bind, EStateM.bind, h₁, get, getThe, MonadStateOf.get, EStateM.get, h₂]

/-- With an arena too small for an error reply, a due scheduled `/node/free` of a node that
does not exist makes `process` throw `std::bad_alloc`: the block is not processed, the epoch
stays where it was, the item stays queued, and the next block dispatches it again. -/
theorem process_throws_when_replyError_throws :
    ∃ env₁ env₂,
      (process 0 64 (fun _ _ => 0) (fun _ _ => 0) []).run
        ((init (α := Int) ⟨48000, 64, 0, 0, 16, 0, 16⟩ (fun _ _ => 0)
          ⟨16, [rootGroup], List.nodup_singleton _⟩).send
          (.bundle 0 [.message ⟨"/node/free", [.int32 7]⟩])) = .error .badAlloc env₁ ∧
      env₁.audio.epoch = 0 ∧ env₁.scheduler.queue.length = 1 ∧
      (process (64 / 48000) 64 (fun _ _ => 0) (fun _ _ => 0) []).run env₁ = .error .badAlloc env₂ ∧
      (env₂.dispatcher.trace.filter (· matches .phaseB ..)).length = 2 :=
  ⟨_, _, process_of_scheduler_error (by with_unfolding_all rfl)
      (processScheduler_throw (by with_unfolding_all rfl) (by with_unfolding_all decide)
        (by with_unfolding_all rfl)),
    by rfl, by rfl,
    process_of_scheduler_error (by exact processRequests_nil rfl _)
      (processScheduler_throw (by with_unfolding_all rfl) (by with_unfolding_all decide)
        (by with_unfolding_all rfl)),
    by with_unfolding_all decide⟩

/-- The samples in the driver's output buffer `i`. -/
def outputs (env : Environment α) (i : Nat) : Buffer α :=
  (env.audio.bus (.externalAudioOutput i)).data

/-- What can happen to the engine. -/
inductive Input (α : Type) where
  /-- A client thread calls `send`. -/
  | send (packet : Osc.Packet)
  /-- A plugin registers a synth definition. -/
  | registerSynthDef (synthDef : SynthDef)
  /-- Worker thread `i`, holding no command, takes the oldest command sent to the worker. -/
  | workerTake (i : Fin 2)
  /-- Worker thread `i` performs the command it took. -/
  | workerPerform (i : Fin 2)
  /-- The driver calls `process`, and the graph makes the bus accesses `graph`. -/
  | process (currentTime : Time) (numFrames : Nat) (inputs outputs : Nat → Buffer α)
      (graph : List (BusOp Bus α))

/-- Whether an input is a block. -/
def Input.isProcess : Input α → Bool
  | .process .. => true
  | _ => false

/-- One input; a block that throws leaves the state the throw left. -/
def step [Add α] [Zero α] (env : Environment α) : Input α → Environment α
  | .send packet => env.send packet
  | .registerSynthDef synthDef => env.registerSynthDef synthDef
  | .workerTake i => { env with dispatcher := { env.dispatcher with
      channel := env.dispatcher.channel.step (.worker_take i) } }
  | .workerPerform i => { env with dispatcher := { env.dispatcher with
      channel := env.dispatcher.channel.step (.worker_perform i) } }
  | .process currentTime numFrames inputs outputs graph =>
    endState ((process currentTime numFrames inputs outputs graph).run env)

/-- A run. -/
def run [Add α] [Zero α] (env : Environment α) (inputs : List (Input α)) : Environment α :=
  inputs.foldl step env

end Environment

end Methcla
