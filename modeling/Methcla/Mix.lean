import Methcla.Process
/-!
The mix law over whole runs (`Engine.cpp`: the constructor's `prevEpoch`, `process`;
`Mescaline/Audio/Synth.hpp`: the connections).

`Methcla.AudioBus` proves the law for one block that starts from stale tags: a bus carries
the current epoch exactly when it was written in the block, and then holds the
write-ordered sum. Here the engine supplies the stale tags. The constructor tags every bus
`epoch() - 1`, a block only ever tags a bus with its own epoch, and the epoch counts the
blocks that returned. So while fewer than `2^64 - 1` blocks have run, every tag is older
than the epoch or still the constructor's `-1`, which the epoch has not reached
(`EpochInv`). The driver's inputs enter a block as one write each, when the buses are
connected. From that:

* inside every block, every internal bus obeys the mix law (`internal_bus_mix_law`);
* after a block that returns, each output holds the write-ordered sum of what the graph
  wrote to it, or zeros (`outputs_mix_law`).

The bound is needed: once the epoch has come round to `-1`, an output nobody wrote since the
constructor looks written, and `process` leaves the driver's buffer as it found it
(`outputs_not_zeroed_after_epoch_wraps`).
-/

set_option autoImplicit false

namespace Methcla

namespace Environment

open Dispatcher

variable {α : Type}

/-! ## The first half of a block leaves the buses alone -/

/-- What `processRequests` and `processScheduler` never touch: the buses, and how many of
them the driver has. -/
def audioView (env : Environment α) : Buses Bus α × Nat × Nat :=
  (env.audio, env.numExternalAudioInputs, env.numExternalAudioOutputs)

section Frame

variable {v : Buses Bus α × Nat × Nat} {β : Type}

theorem keeps_view_dispatch (x : DispatchM β) :
    Keeps (fun env : Environment α => env.audioView = v) (dispatch x) :=
  keeps_dispatch fun _ h _ _ => h

theorem keeps_view_schedule (time : Time) (request : Nat × Osc.Packet) :
    Keeps (fun env : Environment α => env.audioView = v) (schedule time request) :=
  Keeps.get_bind fun env h => by
    split
    next s _ => exact keeps_view_dispatch (log (.pushed request.1 time)) { env with scheduler := s } h
    · exact h

theorem keeps_view_processRequests (currentTime : Time) :
    Keeps (fun env : Environment α => env.audioView = v) (processRequests currentTime) := by
  refine Keeps.bind Keeps.get fun _ => Keeps.bind (Keeps.modify fun _ h => h) fun _ =>
    Keeps.forM fun r _ => ?_
  unfold processRequest
  refine Keeps.tryCatch ?_ fun _ => keeps_view_dispatch _
  split
  all_goals repeat' first
    | with_reducible exact keeps_view_dispatch _ | with_reducible exact keeps_view_schedule _ _
    | with_reducible exact Keeps.pure _
    | with_reducible apply Keeps.ite | with_reducible apply Keeps.bind | intro _

theorem keeps_view_processScheduler_loop (currentTime nextTime : Time) (fuel : Nat) :
    Keeps (fun env : Environment α => env.audioView = v)
      (processScheduler.loop currentTime nextTime fuel) := by
  induction fuel with
  | zero => exact Keeps.pure _
  | succ fuel ih =>
    refine Keeps.bind Keeps.get fun _ => ?_
    split
    · exact Keeps.pure _
    · exact Keeps.ite (Keeps.bind (keeps_view_dispatch _) fun _ =>
        Keeps.bind (Keeps.modify fun _ h => h) fun _ => ih) (Keeps.pure _)

theorem keeps_view_processScheduler (currentTime nextTime : Time) :
    Keeps (fun env : Environment α => env.audioView = v) (processScheduler currentTime nextTime) :=
  Keeps.bind Keeps.get fun _ => keeps_view_processScheduler_loop _ _ _

end Frame

/-- A block that throws leaves the buses as they were. -/
theorem process_error_view [Add α] [Zero α] {env env' : Environment α} {currentTime : Time}
    {numFrames : Nat} {inputs outputs : Nat → Buffer α} {graph : List (BusOp Bus α)}
    {e : Exception} (h : (process currentTime numFrames inputs outputs graph).run env = .error e env') :
    env'.audioView = env.audioView := by
  rcases process_error h with h₁ | ⟨e₁, h₁, h₂⟩
  · exact (keeps_view_processRequests (v := env.audioView) currentTime).run_state rfl h₁
  · have hv₁ : e₁.audioView = env.audioView :=
      (keeps_view_processRequests (v := env.audioView) currentTime).run_state rfl h₁
    exact hv₁ ▸ (keeps_view_processScheduler (v := e₁.audioView) _ _).run_state rfl h₂

/-- A block that returns ran the audio steps on the buses it started with. -/
theorem process_ok_view [Add α] [Zero α] {env env' : Environment α} {currentTime : Time}
    {numFrames : Nat} {inputs outputs : Nat → Buffer α} {graph : List (BusOp Bus α)}
    (h : (process currentTime numFrames inputs outputs graph).run env = .ok () env') :
    env'.audioView = (advanceEpoch (zeroOutputs numFrames
      (processGraph numFrames graph (connectBuses inputs outputs env)))).audioView := by
  obtain ⟨e₁, e₂, h₁, h₂, rfl⟩ := process_ok h
  have hv₁ : e₁.audioView = env.audioView :=
    (keeps_view_processRequests (v := env.audioView) currentTime).run_state rfl h₁
  have hv₂ : e₂.audioView = e₁.audioView :=
    (keeps_view_processScheduler (v := e₁.audioView) _ _).run_state rfl h₂
  simp only [audioView, Prod.mk.injEq] at hv₁ hv₂
  simp only [audioView, advanceEpoch, zeroOutputs, processGraph, connectBuses, performWorker,
    hv₁, hv₂]

/-! ## The audio half of a block -/

section Block

variable {numFrames : Nat} {inputs outputs : Nat → Buffer α} {graph : List (BusOp Bus α)}

/-- Connecting points an output at the driver's buffer and leaves its tag. -/
theorem connectBuses_output_epoch (env : Environment α) (i : Nat) :
    ((connectBuses inputs outputs env).audio.bus (.externalAudioOutput i)).epoch =
      (env.audio.bus (.externalAudioOutput i)).epoch := by
  simp only [connectBuses]
  split_ifs <;> rfl

/-- Connecting tags an input with the current epoch and no other bus. -/
theorem connectBuses_bus_epoch (env : Environment α) (b : Bus) :
    ((connectBuses inputs outputs env).audio.bus b).epoch = env.audio.epoch ∨
      ((connectBuses inputs outputs env).audio.bus b).epoch = (env.audio.bus b).epoch := by
  cases b with
  | audioBus _ => exact .inr rfl
  | externalAudioInput i =>
    by_cases hi : i < env.numExternalAudioInputs <;> simp [connectBuses, hi]
  | externalAudioOutput i => exact .inr (connectBuses_output_epoch env i)

variable [Zero α]

/-- The zero-fill loop writes samples, never tags. -/
theorem zeroOutputs_bus_epoch (env : Environment α) (b : Bus) :
    ((zeroOutputs numFrames env).audio.bus b).epoch = (env.audio.bus b).epoch := by
  cases b <;> simp only [zeroOutputs]
  split_ifs <;> rfl

variable [Add α]

/-- The audio half of a block, before the epoch advances: connect, run the graph, zero. -/
abbrev audioSteps (numFrames : Nat) (inputs outputs : Nat → Buffer α)
    (graph : List (BusOp Bus α)) (env : Environment α) : Environment α :=
  zeroOutputs numFrames (processGraph numFrames graph (connectBuses inputs outputs env))

@[simp] theorem audioSteps_epoch (env : Environment α) :
    (audioSteps numFrames inputs outputs graph env).audio.epoch = env.audio.epoch := by
  simp [zeroOutputs, processGraph, connectBuses]

/-- The audio half of a block tags a bus with the block's epoch or leaves its tag. -/
theorem audioSteps_bus_epoch (env : Environment α) (b : Bus) :
    ((audioSteps numFrames inputs outputs graph env).audio.bus b).epoch = env.audio.epoch ∨
      ((audioSteps numFrames inputs outputs graph env).audio.bus b).epoch =
        (env.audio.bus b).epoch := by
  rw [audioSteps, zeroOutputs_bus_epoch]
  rcases Buses.run_bus_epoch (n := numFrames) (s := (connectBuses inputs outputs env).audio)
    graph b with h | h
  · exact .inl h
  · exact h ▸ connectBuses_bus_epoch env b

/-- The driver's input buffers, as the writes that connecting the buses makes: one to each
external input the driver has. -/
def inputWrites (env : Environment α) (inputs : Nat → Buffer α) : Bus → List (Buffer α)
  | .externalAudioInput i => if i < env.numExternalAudioInputs then [inputs i] else []
  | _ => []

/-- **A block starts mixed** when the tags are stale: the driver's inputs are the only
writes so far. -/
theorem mixed_connectBuses {env : Environment α} (hs : ∀ b, (env.audio.bus b).epoch ≠ env.audio.epoch) :
    (connectBuses inputs outputs env).audio.Mixed numFrames (env.inputWrites inputs) := by
  constructor
  · intro b
    cases b with
    | audioBus id => simpa [connectBuses, inputWrites] using hs (.audioBus id)
    | externalAudioInput i =>
      by_cases hi : i < env.numExternalAudioInputs
      · simp [connectBuses, inputWrites, hi]
      · simpa [connectBuses, inputWrites, hi] using hs (.externalAudioInput i)
    | externalAudioOutput i =>
      by_cases hi : i < env.numExternalAudioOutputs <;>
        simpa [connectBuses, inputWrites, hi] using hs (.externalAudioOutput i)
  · intro b hb j hj
    cases b with
    | externalAudioInput i =>
      by_cases hi : i < env.numExternalAudioInputs
      · simp [connectBuses, hi, inputWrites, Buffer.mixAt]
      · simp [inputWrites, hi] at hb
    | _ => simp [inputWrites] at hb

end Block

/-! ## The epoch invariant over runs -/

/-- After `k` blocks every tag lags the epoch, and the epoch has counted at most `k`. -/
def EpochInv (k : Nat) (env : Environment α) : Prop :=
  env.audio.Lagging ∧ env.audio.epoch.toNat ≤ k

/-- The constructor tags every bus `epoch() - 1`. -/
theorem epochInv_new {options : Options} {data : Bus → Buffer α} {env : Environment α}
    (h : new options data = .ok env) : EpochInv 0 env := by
  obtain ⟨nodes, _, rfl⟩ := new_ok h
  exact ⟨fun _ => .inr rfl, le_refl _⟩

section Runs

variable [Add α] [Zero α]

/-- **One input keeps the invariant**; a block counts one more. -/
theorem EpochInv.step {k : Nat} {env : Environment α} (h : EpochInv k env) (i : Input α)
    (hk : k + (if i.isProcess then 1 else 0) ≤ 2 ^ 64 - 1) :
    EpochInv (k + if i.isProcess then 1 else 0) (env.step i) := by
  cases i with
  | send packet => simpa [Environment.step, EpochInv] using h
  | registerSynthDef synthDef => exact h
  | workerTake => exact h
  | workerPerform => exact h
  | process currentTime numFrames inputs outputs graph =>
    simp only [Input.isProcess, if_true] at hk ⊢
    have he : env.audio.epoch.toNat < 2 ^ 64 - 1 := by have := h.2; omega
    rcases hrun : (process currentTime numFrames inputs outputs graph).run env with
      ⟨_, env'⟩ | ⟨e, env'⟩ <;> simp only [Environment.step, hrun, endState_ok, endState_error]
    · have hv := congrArg Prod.fst (process_ok_view hrun)
      simp only [audioView, advanceEpoch] at hv
      rw [EpochInv, hv, audioSteps_epoch, Epoch.toNat_succ he]
      exact ⟨h.1.advance he (audioSteps_bus_epoch env), Nat.succ_le_succ h.2⟩
    · have hv := congrArg Prod.fst (process_error_view hrun)
      simp only [audioView] at hv
      rw [EpochInv, hv]
      exact ⟨h.1, Nat.le_succ_of_le h.2⟩

/-- **A run keeps the invariant**, as long as it counts at most `2^64 - 1` blocks. -/
theorem EpochInv.run {k : Nat} {env : Environment α} (h : EpochInv k env) (inputs : List (Input α))
    (hk : k + inputs.countP Input.isProcess ≤ 2 ^ 64 - 1) :
    EpochInv (k + inputs.countP Input.isProcess) (env.run inputs) := by
  induction inputs generalizing k env with
  | nil => exact h
  | cons i is ih =>
    rw [List.countP_cons, Nat.add_comm (is.countP _), ← Nat.add_assoc] at hk ⊢
    exact ih (h.step i (by omega)) hk

/-- The driver's channel counts never change. -/
theorem numExternalAudioOutputs_run (env : Environment α) (inputs : List (Input α)) :
    (env.run inputs).numExternalAudioOutputs = env.numExternalAudioOutputs := by
  induction inputs generalizing env with
  | nil => rfl
  | cons i is ih =>
    refine (ih (env.step i)).trans ?_
    cases i with
    | process currentTime numFrames inputs outputs graph =>
      rcases hrun : (process currentTime numFrames inputs outputs graph).run env with
        ⟨_, env'⟩ | ⟨e, env'⟩ <;> simp only [step, hrun, endState_ok, endState_error]
      · exact congrArg (·.2.2) (process_ok_view hrun)
      · exact congrArg (·.2.2) (process_error_view hrun)
    | send packet => exact send_numExternalAudioOutputs env packet
    | _ => rfl

end Runs

/-! ## Blocks with nothing to dispatch -/

/-- Nothing for the first half of a block to do: no request, nothing scheduled, no command
back from the worker. -/
def Quiet (env : Environment α) : Prop :=
  env.requests = [] ∧ env.scheduler.queue = [] ∧ env.dispatcher.channel.fromWorker = []

section Quiet

variable {env : Environment α}

theorem performWorker_quiet (h : env.dispatcher.channel.fromWorker = []) :
    performWorker env = env := by
  simp only [performWorker, h, List.length_nil, List.replicate_zero, List.foldl_nil]

variable [Add α] [Zero α] {numFrames : Nat} {inputs outputs : Nat → Buffer α}

/-- **A quiet block is its audio half**, and it stays quiet. -/
theorem process_quiet (h : env.Quiet) (currentTime : Time) (graph : List (BusOp Bus α)) :
    (process currentTime numFrames inputs outputs graph).run env =
      .ok () (advanceEpoch (audioSteps numFrames inputs outputs graph env)) := by
  have h₁ := processRequests_nil h.1 currentTime
  have h₂ := processScheduler_nil h.2.1 currentTime
    (currentTime + numFrames / env.dispatcher.sampleRate)
  simp only [run_def] at h₁ h₂
  simp only [process, run_def, bind, EStateM.bind, h₁, get, getThe, MonadStateOf.get,
    EStateM.get, h₂, modify, modifyGet, MonadStateOf.modifyGet, EStateM.modifyGet,
    performWorker_quiet h.2.2]

end Quiet

/-! ## The mix law -/

/-- The buses as the graph finds them after making the accesses `ops`, in a block that
started from `env` with the driver's buffers `inputs` and `outputs`. With the whole graph
this is what `processGraph` leaves (`process_ok_view`). -/
def blockBuses [Add α] (env : Environment α) (inputs outputs : Nat → Buffer α) (numFrames : Nat)
    (ops : List (BusOp Bus α)) : Buses Bus α :=
  ops.foldl (BusOp.run numFrames) (connectBuses inputs outputs env).audio

section Law

variable [Add α] [Zero α] {options : Options} {data : Bus → Buffer α} {env : Environment α}
  {numFrames : Nat} {inputs outputs : Nat → Buffer α}

/-- **Every block of a short enough run is mixed**: whatever the graph has done so far, a bus
carries the epoch exactly when it was written in the block, the driver's inputs counting as
writes, and then holds the write-ordered sum. -/
theorem mixed_blockBuses (h : new options data = .ok env) (inputs : List (Input α))
    (hblocks : inputs.countP Input.isProcess < 2 ^ 64 - 1) (ins outs : Nat → Buffer α)
    (numFrames : Nat) (ops : List (BusOp Bus α)) :
    (blockBuses (env.run inputs) ins outs numFrames ops).Mixed numFrames
      (fun b => (env.run inputs).inputWrites ins b ++ writesTo b ops) := by
  have hinv := (epochInv_new h).run inputs (by omega)
  rw [Nat.zero_add] at hinv
  exact (mixed_connectBuses (hinv.1.stale (by have := hinv.2; omega))).run ops

/-- **The mix law for internal buses.** In every block of a run of fewer than `2^64 - 1`
blocks from the constructor, after any accesses `ops` of the graph: an internal bus carries
the block's epoch exactly when `ops` wrote it; a read through an input mapped to it gives
the write-ordered sum of what `ops` wrote to it, silence if nothing; a read through an
unmapped input is silence; a write through an unmapped output changes no bus. -/
theorem internal_bus_mix_law (h : new options data = .ok env) (inputs : List (Input α))
    (hblocks : inputs.countP Input.isProcess < 2 ^ 64 - 1) (ins outs : Nat → Buffer α)
    (numFrames : Nat) (ops : List (BusOp Bus α)) (id : Nat) :
    (((blockBuses (env.run inputs) ins outs numFrames ops).bus (.audioBus id)).epoch =
        (blockBuses (env.run inputs) ins outs numFrames ops).epoch ↔
      writesTo (.audioBus id) ops ≠ []) ∧
    (∀ (c : AudioInputConnection Bus) (dst : Buffer α), c.busId = some (.audioBus id) →
      ∀ i < numFrames, c.read (blockBuses (env.run inputs) ins outs numFrames ops) numFrames dst i =
        Buffer.mixAt (writesTo (.audioBus id) ops) i) ∧
    (∀ (c : AudioInputConnection Bus) (dst : Buffer α), c.busId = none →
      ∀ i < numFrames, c.read (blockBuses (env.run inputs) ins outs numFrames ops) numFrames dst i = 0) ∧
    (∀ (c : AudioOutputConnection Bus) (src : Buffer α), c.busId = none →
      c.write (blockBuses (env.run inputs) ins outs numFrames ops) numFrames src =
        blockBuses (env.run inputs) ins outs numFrames ops) := by
  have hm := mixed_blockBuses h inputs hblocks ins outs numFrames ops
  refine ⟨by simpa [inputWrites] using hm.epoch_iff (.audioBus id), fun c dst hc i hi => ?_,
    fun c dst hc i hi => ?_, fun c src hc => c.write_none _ _ _ hc⟩
  · simpa [inputWrites] using hm.read_eq c dst hc hi
  · rw [c.read_none _ _ _ hc, Buffer.zero_apply _ _ _ hi]

/-- Two synths writing internal bus 0 in the first block of a stereo engine: a read of the
bus gives the sum. -/
theorem internal_bus_two_writers :
    AudioInputConnection.read ⟨0, some (.audioBus 0), .kIn⟩
      (blockBuses ((init (α := Int) ⟨48000, 64, 0, 2, 1024, 16, 65536⟩ (fun _ _ => 0)
          ⟨1024, [rootGroup], List.nodup_singleton _⟩).run []) (fun _ _ => 0) (fun _ _ => 0) 64
        [.write ⟨0, some (.audioBus 0), .kOut⟩ (fun _ => 2),
          .write ⟨0, some (.audioBus 0), .kReplaceOut⟩ (fun _ => 3)]) 64 (fun _ => 0) 7 = 5 :=
  have h : Environment.new (α := Int) ⟨48000, 64, 0, 2, 1024, 16, 65536⟩ (fun _ _ => 0) =
      .ok (init ⟨48000, 64, 0, 2, 1024, 16, 65536⟩ (fun _ _ => 0)
        ⟨1024, [rootGroup], List.nodup_singleton _⟩) := rfl
  (internal_bus_mix_law h [] (by decide) _ _ 64 _ 0).2.1 ⟨0, some (.audioBus 0), .kIn⟩ _ rfl 7
    (by decide)

/-- **The driver's outputs after a block.** In a run of fewer than `2^64 - 1` blocks from the
constructor, after a block that returns, the first `numFrames` samples of each of the
driver's output buffers are the write-ordered sum of what the graph wrote to that output in
the block, and zeros if it wrote nothing. -/
theorem outputs_mix_law (h : new options data = .ok env) (inputs : List (Input α))
    (hblocks : inputs.countP Input.isProcess < 2 ^ 64 - 1) {currentTime : Time} {numFrames : Nat}
    {ins outs : Nat → Buffer α} {graph : List (BusOp Bus α)} {env' : Environment α}
    (hok : (process currentTime numFrames ins outs graph).run (env.run inputs) = .ok () env')
    {i : Nat} (hi : i < options.numHardwareOutputChannels) {j : Nat} (hj : j < numFrames) :
    env'.outputs i j = Buffer.mixAt (writesTo (.externalAudioOutput i) graph) j := by
  have hm := mixed_blockBuses h inputs hblocks ins outs numFrames graph
  have hout : i < (env.run inputs).numExternalAudioOutputs := by
    obtain ⟨_, _, rfl⟩ := new_ok h
    rwa [numExternalAudioOutputs_run]
  have hv := congrArg Prod.fst (process_ok_view hok)
  simp only [audioView, advanceEpoch] at hv
  have hw := hm.epoch_iff (.externalAudioOutput i)
  have hd := hm.data (.externalAudioOutput i)
  simp only [inputWrites, List.nil_append, blockBuses, Buses.run_epoch, connectBuses_epoch]
    at hw hd
  rw [outputs, hv]
  simp only [zeroOutputs, processGraph_audio, processGraph_numExternalAudioOutputs,
    connectBuses_numExternalAudioOutputs, Buses.run_epoch, connectBuses_epoch]
  split_ifs with hc
  · have hnil : writesTo (.externalAudioOutput i) graph = [] := not_not.1 (mt hw.2 hc.2)
    simp [hj, hnil, Buffer.mixAt]
  · exact hd (hw.1 (not_not.1 (not_and.1 hc hout))) j hj

/-- The first block of a stereo engine with nothing to do and a graph that writes nothing
leaves zeros in the outputs, whatever the driver's buffers held. -/
theorem outputs_silent_first_block :
    (advanceEpoch (audioSteps 64 (fun _ _ => 0) (fun _ _ => 1) []
      (init (α := Int) ⟨48000, 64, 0, 2, 1024, 16, 65536⟩ (fun _ _ => 0)
        ⟨1024, [rootGroup], List.nodup_singleton _⟩))).outputs 1 63 = 0 :=
  have h : Environment.new (α := Int) ⟨48000, 64, 0, 2, 1024, 16, 65536⟩ (fun _ _ => 0) =
      .ok (init ⟨48000, 64, 0, 2, 1024, 16, 65536⟩ (fun _ _ => 0)
        ⟨1024, [rootGroup], List.nodup_singleton _⟩) := rfl
  outputs_mix_law h [] (by decide) (process_quiet ⟨rfl, rfl, rfl⟩ 0 []) (by decide) (by decide)

end Law

end Environment

end Methcla
