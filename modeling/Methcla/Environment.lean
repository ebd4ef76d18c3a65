import Methcla.Worker
import Methcla.Node
import Methcla.AudioBus
import Methcla.Keeps
/-!
`Environment` (`Engine.cpp`): the engine's state, its constructor, and the operations the
dispatcher builds on.

The state is `Environment` and `EnvironmentImpl` together, split in two. `Dispatcher` is
the part request dispatch works on: the node registry, the synth definitions, the worker
channel with the arena. `Environment` adds the request queue, the scheduler and the buses.
Dispatch runs in `DispatchM`, `process` in `EnvM`: state monads with C++ exceptions, where a
throw keeps every change made before it, as the C++ does, and `tryCatch` is a `catch`
block. A dispatch lifted into `EnvM` changes nothing outside the `Dispatcher`, which is why
the scheduler's laws in `Methcla.Process` need no frame proofs about Phase A or Phase B.

The node tree's links are kept as `tree`: `Group.hpp` and `Node.hpp` are not under src/,
and the spec (§3, §4.9) says what the engine relies on of them. `Group::construct` and
`Synth::construct` take the target group and `Node::kAddToTail`, so the new object is linked
as the group's last child as it is built, before `nodes().insert` is called; dropping a node
from the registry destroys it, and its links go with it.

Three pieces of ghost state record what the engine does and keeps no record of.
`trace` logs each entry into Phase A and Phase B, the answer Phase A gave for each
drained request, each `Synth::activate` with the id the synth was looked up under, each push
onto the scheduler, and each exception `processRequests` reports on `std::cerr`. Each drained request carries the number
it was sent under, so that its dispatches can be told apart from those of an identical
request. `nextInst` numbers the node objects.

A request is kept as its parsed packet. Its reference count is `Methcla.Request`'s business,
and the packet bytes that fail to parse are outside the model (see `Methcla.Osc`).
-/

set_option autoImplicit false

namespace Methcla

/-- The buses the engine owns, by the accessor that returns them:
`Environment::audioBus(id)`, `externalAudioInput(id)` and `externalAudioOutput(id)`. -/
inductive Bus where
  | audioBus (id : Nat)
  | externalAudioInput (id : Nat)
  | externalAudioOutput (id : Nat)
  deriving Repr, DecidableEq

/-- `Environment::Options`. -/
structure Options where
  sampleRate : Time
  blockSize : Nat
  numHardwareInputChannels : Nat
  numHardwareOutputChannels : Nat
  maxNumNodes : Nat
  maxNumAudioBuses : Nat
  realtimeMemorySize : Nat

/-- What the ghost trace records. -/
inductive Event where
  /-- Phase-A `processMessage(msg)` entered, for request `rid`. -/
  | phaseA (rid : Nat) (msg : Osc.Message)
  /-- Phase-B `processMessage(msg, scheduleTime, currentTime)` entered, for request `rid`. -/
  | phaseB (rid : Nat) (msg : Osc.Message) (scheduleTime : Time)
  /-- `processRequests` got Phase A's answer for request `rid`: whether it needs Phase B. -/
  | phaseADone (rid : Nat) (needsScheduling : Bool)
  /-- `synth->activate(sampleOffset)` on the node object `inst`, registered under `id`. -/
  | activate (id : NodeId) (inst : Nat) (sampleOffset : Time)
  /-- `m_scheduler.push(time, request)` queued request `rid`. -/
  | pushed (rid : Nat) (time : Time)
  /-- `processRequests` caught `e` and printed "Unhandled exception". -/
  | unhandled (e : Exception)
  deriving DecidableEq

/-- `EnvironmentImpl::kQueueSize`. -/
def kQueueSize : Nat := 8192

/-- Modelled from the spec (§6, "a sentinel requestId = Notification"): the value of
`kMethcla_Notification` is not under src/. -/
def kMethcla_Notification : BitVec 32 := -1

/-- The state request dispatch works on. -/
structure Dispatcher where
  sampleRate : Time
  nodes : NodeMap
  rootNode : Node
  synthDefs : List SynthDef
  channel : Channel
  nextInst : Nat
  /-- Modelled from the spec (§3): the node tree's links, as (group object, child object), each
  group's children in the order they were added at its tail. -/
  tree : List (Nat × Nat)
  trace : List Event

/-- Dispatch code, which can throw. -/
abbrev DispatchM (β : Type) := EStateM Exception Dispatcher β

/-- The engine's state, over samples of type `α`. -/
structure Environment (α : Type) where
  dispatcher : Dispatcher
  blockSize : Nat
  audio : Buses Bus α
  numExternalAudioInputs : Nat
  numExternalAudioOutputs : Nat
  requests : List (Nat × Osc.Packet)
  scheduler : Scheduler (Nat × Osc.Packet)
  nextRequest : Nat

/-- Engine code, which can throw. -/
abbrev EnvM (α β : Type) := EStateM Exception (Environment α) β

namespace Environment

variable {α : Type}

/-- `Group::construct(*this, NodeId(0), nullptr, Node::kAddToTail)`: the root group, the
first node object. -/
def rootGroup : Node := ⟨0, 0, none, .group⟩

/-- The engine `Environment(handler, options)` builds around the registry `nodes`. `data` is
what the buses' memory holds before anything writes it. -/
def init (options : Options) (data : Bus → Buffer α) (nodes : NodeMap) : Environment α :=
  { dispatcher :=
      { sampleRate := options.sampleRate
        nodes := nodes
        rootNode := rootGroup
        synthDefs := []
        channel := Channel.new options.realtimeMemorySize
        nextInst := 1
        tree := []
        trace := [] }
    blockSize := options.blockSize
    audio := ⟨0, fun b => ⟨data b, 0 - 1⟩⟩
    numExternalAudioInputs := options.numHardwareInputChannels
    numExternalAudioOutputs := options.numHardwareOutputChannels
    requests := []
    scheduler := Scheduler.new kQueueSize
    nextRequest := 0 }

/-- `Environment(handler, options)`: the root group is inserted like any node, so a registry
with room for none refuses it and the constructor throws. -/
def new (options : Options) (data : Bus → Buffer α) : Except Exception (Environment α) :=
  ((NodeMap.new options.maxNumNodes).insert rootGroup).map (init options data)

/-- A constructor that returns built the engine around the registry the root's insertion
made. -/
theorem new_ok {options : Options} {data : Bus → Buffer α} {env : Environment α}
    (h : new options data = .ok env) : ∃ nodes,
      (NodeMap.new options.maxNumNodes).insert rootGroup = .ok nodes ∧ env = init options data nodes := by
  unfold new at h
  rcases hins : (NodeMap.new options.maxNumNodes).insert rootGroup with _ | nodes <;>
    rw [hins] at h <;> simp only [Except.map, Except.ok.injEq, reduceCtorEq] at h
  exact ⟨nodes, rfl, h.symm⟩

/-- `Environment::send(packet, size)`: the client enqueues a request. `m_requests` is built
with room for `kQueueSize` requests; `Utility::MessageQueue` is not under src/, and is
modelled from the spec (§4.2): a full queue refuses the request with an error to the caller
and does not block, so the engine's state is unchanged. -/
def send (env : Environment α) (packet : Osc.Packet) : Environment α :=
  if env.requests.length < kQueueSize then
    { env with requests := env.requests ++ [(env.nextRequest, packet)],
               nextRequest := env.nextRequest + 1 }
  else env

section Send

variable (env : Environment α) (packet : Osc.Packet)

@[simp] theorem send_dispatcher : (env.send packet).dispatcher = env.dispatcher := by
  unfold send; split <;> rfl
@[simp] theorem send_audio : (env.send packet).audio = env.audio := by
  unfold send; split <;> rfl
@[simp] theorem send_numExternalAudioOutputs :
    (env.send packet).numExternalAudioOutputs = env.numExternalAudioOutputs := by
  unfold send; split <;> rfl

end Send

/-- `registerSynthDef(def)`: `m_synthDefs[def->uri()] = def`. -/
def registerSynthDef (env : Environment α) (synthDef : SynthDef) : Environment α :=
  { env with dispatcher := { env.dispatcher with
      synthDefs := synthDef :: env.dispatcher.synthDefs.filter (·.uri != synthDef.uri) } }

/-- A dispatch run on the environment's `Dispatcher`. -/
def dispatch {β : Type} (x : DispatchM β) : EnvM α β := fun env =>
  match x env.dispatcher with
  | .ok b d => .ok b { env with dispatcher := d }
  | .error e d => .error e { env with dispatcher := d }

theorem keeps_dispatch {β : Type} {Q : Environment α → Prop} {x : DispatchM β}
    (h : ∀ env, Q env → Keeps (fun d => Q { env with dispatcher := d }) x) :
    Keeps Q (dispatch x) := by
  intro env hq
  have hx : Q { env with dispatcher := endState (x env.dispatcher) } := h env hq _ hq
  show Q (endState (dispatch x env))
  unfold dispatch
  rcases hrun : x env.dispatcher with ⟨b, d⟩ | ⟨e, d⟩ <;> rw [hrun] at hx <;> exact hx

end Environment

namespace Dispatcher

/-- Append to the ghost trace. -/
def log (e : Event) : DispatchM Unit :=
  modify fun d => { d with trace := d.trace ++ [e] }

/-- A value, or its exception thrown. -/
def liftExcept {β : Type} : Except Exception β → DispatchM β
  | .ok b => pure b
  | .error e => throw e

/-- `replyError(requestId, msg)`: `Channel.replyError` on the engine's channel. -/
def replyError (requestId : BitVec 32) (msg : String) : DispatchM Unit := do
  let d ← get
  match d.channel.replyError requestId msg with
  | .ok c => set { d with channel := c }
  | .error e => throw e

/-- `synthDef(uri)`. -/
def synthDef (uri : String) : DispatchM SynthDef := do
  match (← get).synthDefs.find? (·.uri == uri) with
  | some synthDef => pure synthDef
  | none => throw (.runtimeError "Synth definition not found")

/-- `m_nodes.lookup(id)` and the null check: `Error(kMethcla_NodeIdError)` for no node. -/
def lookupNode (id : NodeId) : DispatchM Node := do
  match (← get).nodes.lookup id with
  | some node => pure node
  | none => throw (.error .nodeIdError)

/-- Phase B's lookup of a synth: `Error(kMethcla_NodeIdError)` for no node,
`Error(kMethcla_NodeTypeError)` for a group. -/
def lookupSynth (id : NodeId) : DispatchM (Node × Synth) := do
  let node ← lookupNode id
  match node.kind with
  | .synth s => pure (node, s)
  | .group => throw (.error .nodeTypeError)

/-- `nodes().insert(node->id(), node)`. -/
def insertNode (node : Node) : DispatchM Unit := do
  let d ← get
  match d.nodes.insert node with
  | .ok nodes => set { d with nodes := nodes }
  | .error e => throw e

/-- Modelled from the spec (§3): `Node::kAddToTail`, object `inst` linked as the last child of
the group object `parent`. -/
def addToTail (tree : List (Nat × Nat)) (parent : Option Nat) (inst : Nat) : List (Nat × Nat) :=
  match parent with
  | some p => tree ++ [(p, inst)]
  | none => tree

/-- Modelled from the spec (§3): `m_nodes.remove(id)` destroys the node. A synth's arena block
is freed, and the node's links go with it: the one to its group, and its own children's. -/
def removeNode (id : NodeId) (d : Dispatcher) : Dispatcher :=
  let channel := match d.nodes.lookup id with
    | some ⟨_, _, _, .synth s⟩ => { d.channel with rtMem := d.channel.rtMem.free s.mem }
    | _ => d.channel
  let tree := match d.nodes.lookup id with
    | some n => d.tree.filter fun l => l.1 != n.inst && l.2 != n.inst
    | none => d.tree
  { d with nodes := d.nodes.remove id, channel := channel, tree := tree }

/-- Change the synth registered under `id`. -/
def updateSynth (id : NodeId) (f : Synth → Synth) : DispatchM Unit :=
  modify fun d => { d with nodes := d.nodes.updateSynth id f }

/-- The group a new node goes into: the target if it is a group, else the target's parent. -/
def targetGroup (target : Node) : Option Nat :=
  if target.isGroup then some target.inst else target.parent

/-- Modelled from the spec (§3, §4.9): `Group::construct(*this, nodeId, targetGroup,
Node::kAddToTail)`, a fresh group object linked at the tail of the target group. -/
def constructGroup (nodeId : NodeId) (parent : Option Nat) : DispatchM Node :=
  modifyGet fun d => (⟨nodeId, d.nextInst, parent, .group⟩,
    { d with nextInst := d.nextInst + 1, tree := addToTail d.tree parent d.nextInst })

/-- Modelled from the spec (§4.7, §4.9): the control initialisers Synth::construct reads,
one `float32` per control input. -/
def readControls : Nat → Osc.ArgStream → Except Exception (List (BitVec 32))
  | 0, _ => .ok []
  | n + 1, args => do
    let (v, args) ← Osc.ArgStream.float32 args
    let vs ← readControls n args
    pure (v :: vs)

/-- Modelled from the spec (§4.7, §4.9): `Synth::construct(*this, nodeId, targetGroup,
Node::kAddToTail, *def, synthControls, synthArgs)`. The instance is allocated from the
arena, linked at the tail of the target group, and starts inactive with every port
unmapped; the arguments go to the plugin. -/
def constructSynth (nodeId : NodeId) (parent : Option Nat) (synthDef : SynthDef)
    (synthControls : Osc.ArgStream) : DispatchM Node := do
  let controls ← liftExcept (readControls synthDef.numControlInputs synthControls)
  let d ← get
  match d.channel.rtMem.alloc synthDef.instanceSize with
  | .ok (b, m) =>
    set { d with
      channel := { d.channel with rtMem := m }
      nextInst := d.nextInst + 1
      tree := addToTail d.tree parent d.nextInst }
    pure ⟨nodeId, d.nextInst, parent, .synth ⟨synthDef, controls,
      List.replicate synthDef.numAudioInputs none, List.replicate synthDef.numAudioOutputs none,
      none, b⟩⟩
  | .error e => throw e

end Dispatcher

end Methcla
