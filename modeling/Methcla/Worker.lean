import Methcla.Memory
import Mathlib.Tactic.FinCases
/-!
The command channel between the audio thread and the worker (`Utility::WorkerThread`,
`Environment::sendToWorker` / `sendFromWorker`), and the ownership protocol it carries.

A `Command` is a perform function and a data pointer; ownership of the data moves with the
command. Every perform function of `Engine.cpp` is transcribed below as the list of what it
does with its data, in source order: read it, call the plugin function stored in it, reply
to the client, hand it on in a new command, or free it. `Channel.perform` runs such a list.

Four producers attach blocks to commands: `Environment::replyError` and
`methcla_api_world_perform_command` (audio thread, realtime arena),
`methcla_api_host_perform_command` (worker, system heap) and `Request::release` (the last
handle of a packet block, system heap). The result of this file, `worker_frees_exactly_once`,
is that under every interleaving of the two sides each of those blocks is freed at most
once, by the allocator it came from and on that allocator's thread, that nothing reads a
block after it was freed, and that draining the two queues frees every one of them.

`EnvironmentImpl` builds the worker as `m_worker(kQueueSize, 2)`: two worker threads take
commands off the one queue sent to the worker. A thread takes the oldest command (its
`running` slot holds it) and performs it later, so the other thread can take and perform the
next one in between. Each perform is one step of the model. The two threads' performs touch
different blocks, so running their statements interleaved changes only the order in which
they append to the replies and to the queues, not which blocks they read, hand on or free.
`Utility::WorkerThread` is not under src/: its two queues and its threads are modelled from
the spec (§4.3) and from the constructor's arguments. The spec bounds the queues but does not
say what a full one does, and the model's queues are unbounded.
-/

set_option autoImplicit false

namespace Methcla

/-- The two sides of the channel. -/
inductive Thread where
  | audio
  | worker
  deriving Repr, DecidableEq

/-- The side that frees an allocator's blocks: the arena is audio-thread only (spec §4.1). -/
def Alloc.home : Alloc → Thread
  | .rt => .audio
  | .nrt => .worker

/-- What a data block holds. -/
inductive Payload where
  /-- `EnvironmentImpl::ErrorData`. -/
  | errorData (requestId : BitVec 32) (message : String)
  /-- The `int32_t` request id `perform_response_ack` reads. -/
  | ackData (requestId : BitVec 32)
  /-- The two `int32_t` `perform_response_nodeId` reads. -/
  | nodeIdData (requestId nodeId : BitVec 32)
  /-- `CallbackData<T>`: a plugin function and its argument. -/
  | callbackData
  /-- A `Request`'s `Data` block with its packet. -/
  | packetData
  deriving Repr, DecidableEq

/-- `CommandData*`: the pointer, and what the block it points to holds. -/
structure CommandData where
  ptr : Ptr
  payload : Payload
  deriving Repr, DecidableEq

/-- The static perform functions of `Engine.cpp`. -/
inductive PerformFunc where
  | perform_response_error
  | perform_response_ack
  | perform_response_nodeId
  | perform_rt_free
  | perform_nrt_free
  | perform_free_data
  | perform_worldCommand
  | perform_hostCommand
  deriving Repr, DecidableEq

/-- `Command`: `m_env` is always the one environment and is left out. -/
structure Command where
  perform : PerformFunc
  data : CommandData
  deriving Repr, DecidableEq

/-- Where a command waits to be performed: the two queues of `Utility::WorkerThread`, and the
slot of each of its two worker threads. -/
inductive Queue where
  /-- Filled by `sendToWorker`, taken from by the worker threads. -/
  | toWorker
  /-- Filled by `sendFromWorker`, run by the audio thread in `m_worker.perform()`. -/
  | fromWorker
  /-- The command worker thread `i` took off `toWorker` and has not finished. -/
  | running (i : Fin 2)
  deriving Repr, DecidableEq

/-- The side that runs the commands of a place. -/
def Queue.thread : Queue → Thread
  | .toWorker | .running _ => .worker
  | .fromWorker => .audio

/-- The queue a command at this place was sent to: a worker thread took its command off
`toWorker`. -/
def Queue.inbox : Queue → Queue
  | .running _ => .toWorker
  | q => q

@[simp] theorem Queue.thread_inbox (q : Queue) : q.inbox.thread = q.thread := by
  cases q <;> rfl

/-- What a perform function does with its data block. -/
inductive Action where
  | read
  | callback
  | reply
  | send (q : Queue) (f : PerformFunc)
  | free (a : Alloc)
  deriving Repr, DecidableEq

namespace PerformFunc

/-- The body of each perform function, statement by statement. -/
def body : PerformFunc → List Action
  | perform_response_error => [.read, .reply, .send .fromWorker perform_rt_free]
  | perform_response_ack => [.read, .reply, .send .fromWorker perform_rt_free]
  | perform_response_nodeId => [.read, .reply, .send .fromWorker perform_rt_free]
  | perform_rt_free => [.free .rt]
  | perform_nrt_free => [.free .nrt]
  | perform_free_data => [.free .nrt]
  | perform_worldCommand => [.read, .callback, .send .toWorker perform_nrt_free]
  | perform_hostCommand => [.read, .callback, .send .fromWorker perform_rt_free]

/-- The queue a producer puts a command with this function on, hence the side that runs it. -/
def queue : PerformFunc → Queue
  | perform_rt_free | perform_worldCommand => .fromWorker
  | _ => .toWorker

/-- The allocator the data of a command with this function comes from. -/
def dataAlloc : PerformFunc → Alloc
  | perform_nrt_free | perform_free_data | perform_worldCommand => .nrt
  | _ => .rt

/-- Steps left before a command's data is freed, counted from when it can be performed (on
the audio thread, or taken by a worker thread): its perform, and each later command's. -/
def weight : PerformFunc → Nat
  | perform_rt_free | perform_nrt_free | perform_free_data => 1
  | perform_worldCommand => 3
  | _ => 2

/-- The last statement of each body: where the data goes when the function is done. -/
def handoff : PerformFunc → Action
  | perform_response_error | perform_response_ack | perform_response_nodeId
  | perform_hostCommand => .send .fromWorker perform_rt_free
  | perform_rt_free => .free .rt
  | perform_nrt_free | perform_free_data => .free .nrt
  | perform_worldCommand => .send .toWorker perform_nrt_free

end PerformFunc

/-- Steps left before the data of a command running `f` at this place is freed: a command
sent to the worker is taken by a worker thread first. -/
def Queue.cost (q : Queue) (f : PerformFunc) : Nat :=
  f.weight + match q with
    | .toWorker => 1
    | _ => 0

/-- Statements that leave the data where it is: everything but `send` and `free`. -/
def Action.IsLocal : Action → Prop
  | .read | .callback | .reply => True
  | _ => False

instance : DecidablePred Action.IsLocal
  | .read | .callback | .reply => isTrue trivial
  | .send _ _ | .free _ => isFalse id

/-- Every perform function does its local work first and hands its data on, or frees it,
in its last statement: no statement of any body touches the data after the hand-off. -/
theorem PerformFunc.body_eq (f : PerformFunc) :
    f.body = f.body.dropLast ++ [f.handoff] ∧ ∀ a ∈ f.body.dropLast, a.IsLocal := by
  cases f <;> decide

/-- A body ends by handing its data on or by freeing it. -/
theorem PerformFunc.handoff_cases (f : PerformFunc) :
    (∃ q g, f.handoff = .send q g) ∨ ∃ a, f.handoff = .free a := by
  cases f <;> simp [PerformFunc.handoff]

/-- A hand-off passes the data to a function one step closer to its free. -/
theorem PerformFunc.weight_handoff (f : PerformFunc) :
    (∀ q g, f.handoff = .send q g → f.weight = q.cost g + 1) ∧
      ∀ a, f.handoff = .free a → f.weight = 1 := by
  cases f <;> simp [PerformFunc.handoff, PerformFunc.weight, Queue.cost]

/-- A producer puts a command on one of the two queues. -/
@[simp] theorem PerformFunc.queue_inbox (f : PerformFunc) : f.queue.inbox = f.queue := by
  cases f <;> rfl

/-- A forwarded block goes to a function of its own allocator, on that function's queue. -/
theorem PerformFunc.handoff_send {f g : PerformFunc} {q : Queue}
    (h : f.handoff = .send q g) : g.queue = q ∧ g.dataAlloc = f.dataAlloc := by
  cases f <;> simp [PerformFunc.handoff] at h <;> obtain ⟨rfl, rfl⟩ := h <;> decide

/-- A function that frees its block frees it with the block's allocator, on the side that
runs its queue, which is that allocator's home. -/
theorem PerformFunc.handoff_free {f : PerformFunc} {a : Alloc}
    (h : f.handoff = .free a) : a = f.dataAlloc ∧ f.queue.thread = a.home := by
  cases f <;> simp [PerformFunc.handoff] at h <;> subst h <;> decide

/-- One free: the block, the allocator that freed it, and the thread it ran on. -/
structure FreeEvent where
  ptr : Ptr
  alloc : Alloc
  thread : Thread
  deriving Repr, DecidableEq

/-- The channel and the memory its commands point into. `replies` are the packets handed to
the client's `PacketHandler`; `attached`, `frees` and `faulted` are ghost state: the blocks
producers attached to commands, every free, and whether a perform read a dead block. -/
structure Channel where
  rtMem : RTMemoryManager
  heap : Heap
  toWorker : List Command
  fromWorker : List Command
  /-- What each worker thread took and is performing: a command, or none. -/
  running : Fin 2 → List Command
  held : List Nat
  replies : List Osc.Message
  attached : List Ptr
  frees : List FreeEvent
  faulted : Bool

namespace Channel

/-- A channel over an arena of `rtSize` bytes, with nothing allocated or queued. -/
def new (rtSize : Nat) : Channel :=
  ⟨RTMemoryManager.new rtSize, ⟨[], 0⟩, [], [], fun _ => [], [], [], [], [], false⟩

/-- A block is live when its allocator handed it out and has not had it back. -/
def IsLive (c : Channel) : Ptr → Prop
  | ⟨.rt, b⟩ => c.rtMem.IsLive b
  | ⟨.nrt, b⟩ => b ∈ c.heap.live

instance (c : Channel) : DecidablePred c.IsLive
  | ⟨.rt, b⟩ => inferInstanceAs (Decidable (c.rtMem.IsLive b))
  | ⟨.nrt, b⟩ => inferInstanceAs (Decidable (b ∈ c.heap.live))

/-- `sendToWorker(f, data)` or `sendFromWorker(f, data)`; producers and perform functions
send to these two queues only. -/
def send (c : Channel) : Queue → Command → Channel
  | .toWorker, cmd => { c with toWorker := c.toWorker ++ [cmd] }
  | .fromWorker, cmd => { c with fromWorker := c.fromWorker ++ [cmd] }
  | .running i, cmd => { c with running := Function.update c.running i (c.running i ++ [cmd]) }

/-- `rtMem().free(p)` or `Methcla::Memory::free(p)`, run on thread `t`. -/
def free (c : Channel) (t : Thread) (a : Alloc) (p : Ptr) : Channel :=
  match a with
  | .rt => { c with rtMem := c.rtMem.free p.block, frees := c.frees ++ [⟨p, a, t⟩] }
  | .nrt => { c with heap := c.heap.free p.block, frees := c.frees ++ [⟨p, a, t⟩] }

/-- The packet a response perform function builds from its data and hands to `reply`. -/
def replyOf : Payload → List Osc.Message
  | .errorData rid msg => [⟨"/error", [.int32 rid, .string msg]⟩]
  | .ackData rid => [⟨"/ack", [.int32 rid]⟩]
  | .nodeIdData rid nid => [⟨"/ack", [.int32 rid, .int32 nid]⟩]
  | _ => []

/-- One statement of a perform function, run on thread `t` with data `d`. -/
def act (t : Thread) (d : CommandData) (c : Channel) : Action → Channel
  | .read => if c.IsLive d.ptr then c else { c with faulted := true }
  | .callback => c
  | .reply => { c with replies := c.replies ++ replyOf d.payload }
  | .send q f => c.send q ⟨f, d⟩
  | .free a => c.free t a d.ptr

/-- `Command::perform()` on thread `t`. -/
def perform (t : Thread) (cmd : Command) (c : Channel) : Channel :=
  cmd.perform.body.foldl (act t cmd.data) c

/-- A producer hands a fresh block `p` holding `payload` to a new command running `f`. -/
def attach (c : Channel) (f : PerformFunc) (p : Ptr) (payload : Payload) : Channel :=
  { c with attached := c.attached ++ [p] }.send f.queue ⟨f, ⟨p, payload⟩⟩

/-- `sizeof(EnvironmentImpl::ErrorData)` on LP64: an `int32_t`, padding, a `char*`. -/
def errorDataSize : Nat := 16

/-- `sizeof(CallbackData<T>)` on LP64: a function pointer and a `void*`. -/
def callbackDataSize : Nat := 16

/-- `Environment::replyError(requestId, msg)`: an `ErrorData` with the message copied after
it, allocated from the arena and sent to the worker's `perform_response_error`. -/
def replyError (requestId : BitVec 32) (msg : String) (c : Channel) : Except Exception Channel :=
  match c.rtMem.alloc (errorDataSize + msg.utf8ByteSize + 1) with
  | .ok (b, m) =>
    .ok ({ c with rtMem := m }.attach .perform_response_error ⟨.rt, b⟩ (.errorData requestId msg))
  | .error e => .error e

/-- `methcla_api_world_perform_command`: a `CallbackData` from the arena, to the worker. -/
def world_perform_command (c : Channel) : Except Exception Channel :=
  match c.rtMem.alloc callbackDataSize with
  | .ok (b, m) => .ok ({ c with rtMem := m }.attach .perform_hostCommand ⟨.rt, b⟩ .callbackData)
  | .error e => .error e

/-- `methcla_api_host_perform_command`: a `CallbackData` from the heap, to the audio thread. -/
def host_perform_command (c : Channel) : Channel :=
  { c with heap := c.heap.alloc.2 }.attach .perform_worldCommand ⟨.nrt, c.heap.next⟩ .callbackData

/-- `Request(env, packet, size)`: a packet block from the heap, held by its first handle. -/
def request_new (c : Channel) : Channel :=
  { c with heap := c.heap.alloc.2, held := c.heap.next :: c.held }

/-- `Request::release` dropping the last handle of packet block `b`. -/
def request_release (c : Channel) (b : Nat) : Channel :=
  if b ∈ c.held then
    { c with held := c.held.erase b }.attach .perform_free_data ⟨.nrt, b⟩ .packetData
  else c

/-- The steps of the two sides, in any interleaving. -/
inductive Step where
  | replyError (requestId : BitVec 32) (msg : String)
  | world_perform_command
  | host_perform_command
  | request_new
  | request_release (b : Nat)
  /-- `m_worker.perform()` on the audio thread runs the oldest command sent from the worker. -/
  | audio_perform
  /-- Worker thread `i`, holding no command, takes the oldest command sent to the worker. -/
  | worker_take (i : Fin 2)
  /-- Worker thread `i` performs the command it took. -/
  | worker_perform (i : Fin 2)
  deriving Repr, DecidableEq

/-- One step. A producer whose allocation throws leaves the channel as it was. -/
def step (c : Channel) : Step → Channel
  | .replyError rid msg => match c.replyError rid msg with | .ok c' => c' | .error _ => c
  | .world_perform_command => match c.world_perform_command with | .ok c' => c' | .error _ => c
  | .host_perform_command => c.host_perform_command
  | .request_new => c.request_new
  | .request_release b => c.request_release b
  | .audio_perform =>
    match c.fromWorker with
    | [] => c
    | cmd :: rest => perform .audio cmd { c with fromWorker := rest }
  | .worker_take i =>
    match c.running i, c.toWorker with
    | [], cmd :: rest => { c with toWorker := rest, running := Function.update c.running i [cmd] }
    | _, _ => c
  | .worker_perform i =>
    match c.running i with
    | [] => c
    | cmd :: rest => perform .worker cmd { c with running := Function.update c.running i rest }

/-- Run both sides until the queues are empty (`n` bounds the steps run): the worker threads
finish what they took, then thread `0` takes the next command, then the audio thread runs. -/
def drain : Nat → Channel → Channel
  | 0, c => c
  | n + 1, c =>
    match c.running 0, c.running 1, c.toWorker, c.fromWorker with
    | _ :: _, _, _, _ => drain n (c.step (.worker_perform 0))
    | [], _ :: _, _, _ => drain n (c.step (.worker_perform 1))
    | [], [], _ :: _, _ => drain n (c.step (.worker_take 0))
    | [], [], [], _ :: _ => drain n (c.step .audio_perform)
    | [], [], [], [] => c

/-- Steps left before every block the commands at place `q` carry is freed. -/
def loadOf (q : Queue) (l : List Command) : Nat := (l.map (q.cost ·.perform)).sum

/-- Steps left before every block a command carries is freed. -/
def load (c : Channel) : Nat :=
  loadOf .toWorker c.toWorker + loadOf .fromWorker c.fromWorker +
    loadOf (.running 0) (c.running 0) + loadOf (.running 1) (c.running 1)

/-! ## Ownership

A block attached to a command is carried by exactly one queued command until a perform
function frees it, and by none afterwards. Everything below is about the blocks in
`attached`: the arena also holds blocks no command ever carries. -/

/-- The commands of one place. -/
def queueOf (c : Channel) : Queue → List Command
  | .toWorker => c.toWorker
  | .fromWorker => c.fromWorker
  | .running i => c.running i

/-- The channel with place `q` holding `l`: what taking a command off it leaves. -/
def setQueue (c : Channel) : Queue → List Command → Channel
  | .toWorker, l => { c with toWorker := l }
  | .fromWorker, l => { c with fromWorker := l }
  | .running i, l => { c with running := Function.update c.running i l }

/-- The commands in flight: on either queue, or taken by a worker thread. -/
def inflight (c : Channel) : List Command := c.toWorker ++ c.fromWorker ++ c.running 0 ++ c.running 1

/-- How many queued commands carry block `p`. -/
def carriers (c : Channel) (p : Ptr) : Nat := c.inflight.countP (fun cmd => cmd.data.ptr = p)

/-- The blocks freed so far, in order. -/
def freed (c : Channel) : List Ptr := c.frees.map (·.ptr)

/-- The next block an allocator hands out. -/
def nextOf (c : Channel) : Alloc → Nat
  | .rt => c.rtMem.next
  | .nrt => c.heap.next

/-- The ownership invariant of the channel. -/
structure Inv (c : Channel) : Prop where
  queued : ∀ q, ∀ cmd ∈ c.queueOf q, cmd.perform.queue = q.inbox
  alloc : ∀ cmd ∈ c.inflight, cmd.data.ptr.alloc = cmd.perform.dataAlloc
  carried : ∀ p, c.carriers p = if p ∈ c.attached ∧ p ∉ c.freed then 1 else 0
  live : ∀ p ∈ c.attached, p ∉ c.freed → c.IsLive p
  frees : ∀ e ∈ c.frees, e.ptr ∈ c.attached ∧ e.alloc = e.ptr.alloc ∧ e.thread = e.ptr.alloc.home
  nodup : c.freed.Nodup
  fresh : ∀ p ∈ c.attached, p.block < c.nextOf p.alloc
  held : ∀ b ∈ c.held, b < c.heap.next ∧ (⟨.nrt, b⟩ : Ptr) ∉ c.attached ∧ b ∈ c.heap.live
  held_nodup : c.held.Nodup
  not_faulted : c.faulted = false

/-! ### Frame lemmas -/

section Frame

variable (c : Channel) (q : Queue) (cmd : Command)

/-- A send sets its place to what it held and the new command. -/
theorem send_eq_setQueue : c.send q cmd = c.setQueue q (c.queueOf q ++ [cmd]) := by
  rcases q with _ | _ | i <;> rfl

@[simp] theorem setQueue_queueOf (l : List Command) (q' : Queue) :
    (c.setQueue q l).queueOf q' = if q' = q then l else c.queueOf q' := by
  rcases q with _ | _ | i <;> rcases q' with _ | _ | j <;>
    simp [setQueue, queueOf, Function.update_apply]

/-- Setting place `q` to `l` swaps its commands for `l` among those in flight. -/
theorem inflight_setQueue_count (l : List Command) (a : Command) :
    (c.setQueue q l).inflight.count a + (c.queueOf q).count a = c.inflight.count a + l.count a := by
  rcases q with _ | _ | i
  · simp [setQueue, queueOf, inflight]; omega
  · simp [setQueue, queueOf, inflight]; omega
  · fin_cases i <;> simp [setQueue, queueOf, inflight, Function.update_apply] <;> omega

@[simp] theorem send_attached : (c.send q cmd).attached = c.attached := by cases q <;> rfl
@[simp] theorem send_frees : (c.send q cmd).frees = c.frees := by cases q <;> rfl
@[simp] theorem send_held : (c.send q cmd).held = c.held := by cases q <;> rfl
@[simp] theorem send_heap : (c.send q cmd).heap = c.heap := by cases q <;> rfl
@[simp] theorem send_rtMem : (c.send q cmd).rtMem = c.rtMem := by cases q <;> rfl
@[simp] theorem send_faulted : (c.send q cmd).faulted = c.faulted := by cases q <;> rfl
@[simp] theorem send_freed : (c.send q cmd).freed = c.freed := by cases q <;> rfl
@[simp] theorem send_nextOf (a : Alloc) : (c.send q cmd).nextOf a = c.nextOf a := by
  cases q <;> cases a <;> rfl
@[simp] theorem send_isLive (p : Ptr) : (c.send q cmd).IsLive p ↔ c.IsLive p := by
  cases q <;> exact Iff.rfl

theorem send_queueOf (q' : Queue) :
    (c.send q cmd).queueOf q' = c.queueOf q' ++ if q' = q then [cmd] else [] := by
  rw [send_eq_setQueue, setQueue_queueOf]
  split_ifs with h <;> simp [h]

/-- A send adds its command to the commands in flight. -/
theorem inflight_send : (c.send q cmd).inflight.Perm (c.inflight ++ [cmd]) := by
  rw [send_eq_setQueue, List.perm_iff_count]; intro a
  have := inflight_setQueue_count c q (c.queueOf q ++ [cmd]) a
  simp only [List.count_append] at this ⊢
  omega

theorem carriers_send (p : Ptr) :
    (c.send q cmd).carriers p = c.carriers p + if cmd.data.ptr = p then 1 else 0 := by
  simp [carriers, (inflight_send c q cmd).countP_eq, List.countP_cons]

theorem mem_inflight {c : Channel} {cmd : Command} :
    cmd ∈ c.inflight ↔ ∃ q, cmd ∈ c.queueOf q := by
  refine ⟨fun h => ?_, fun ⟨q, h⟩ => ?_⟩
  · simp only [inflight, List.mem_append] at h
    rcases h with ((h | h) | h) | h
    exacts [⟨.toWorker, h⟩, ⟨.fromWorker, h⟩, ⟨.running 0, h⟩, ⟨.running 1, h⟩]
  · have hc := inflight_setQueue_count c q [] cmd
    rw [List.count_nil, Nat.add_zero] at hc
    rw [← List.count_pos_iff] at h ⊢
    omega

theorem isLive_free {c : Channel} {t : Thread} {p q : Ptr} :
    (c.free t p.alloc p).IsLive q ↔ c.IsLive q ∧ q ≠ p := by
  obtain ⟨a, b⟩ := p
  obtain ⟨a', b'⟩ := q
  cases a <;> cases a' <;> simp [free, IsLive, Heap.free, and_comm]

@[simp] theorem free_attached (t : Thread) (a : Alloc) (p : Ptr) :
    (c.free t a p).attached = c.attached := by cases a <;> rfl
@[simp] theorem free_held (t : Thread) (a : Alloc) (p : Ptr) :
    (c.free t a p).held = c.held := by cases a <;> rfl
@[simp] theorem free_faulted (t : Thread) (a : Alloc) (p : Ptr) :
    (c.free t a p).faulted = c.faulted := by cases a <;> rfl
@[simp] theorem free_inflight (t : Thread) (a : Alloc) (p : Ptr) :
    (c.free t a p).inflight = c.inflight := by cases a <;> rfl
@[simp] theorem free_queueOf (t : Thread) (a : Alloc) (p : Ptr) (q : Queue) :
    (c.free t a p).queueOf q = c.queueOf q := by cases a <;> cases q <;> rfl
@[simp] theorem free_frees (t : Thread) (a : Alloc) (p : Ptr) :
    (c.free t a p).frees = c.frees ++ [⟨p, a, t⟩] := by cases a <;> rfl
@[simp] theorem free_nextOf (t : Thread) (a a' : Alloc) (p : Ptr) :
    (c.free t a p).nextOf a' = c.nextOf a' := by cases a <;> cases a' <;> rfl
@[simp] theorem free_carriers (t : Thread) (a : Alloc) (p p' : Ptr) :
    (c.free t a p).carriers p' = c.carriers p' := by cases a <;> rfl
@[simp] theorem free_heap_next (t : Thread) (a : Alloc) (p : Ptr) :
    (c.free t a p).heap.next = c.heap.next := by cases a <;> rfl
@[simp] theorem free_freed (t : Thread) (a : Alloc) (p : Ptr) :
    (c.free t a p).freed = c.freed ++ [p] := by cases a <;> simp [freed]

end Frame

/-! ### One perform -/

/-- The local statements of a body change only the replies and the fault flag, and leave
the flag alone when the data is live. -/
theorem foldl_local (t : Thread) (d : CommandData) :
    ∀ (as : List Action) (c : Channel), (∀ a ∈ as, a.IsLocal) →
      ∃ r fl, as.foldl (act t d) c = { c with replies := r, faulted := fl } ∧
        (c.IsLive d.ptr → fl = c.faulted)
  | [], c, _ => ⟨c.replies, c.faulted, rfl, fun _ => rfl⟩
  | a :: as, c, h => by
    have hs : ∀ c' : Channel, c'.rtMem = c.rtMem → c'.heap = c.heap →
        (c'.IsLive d.ptr ↔ c.IsLive d.ptr) := by
      intro c' h1 h2; obtain ⟨⟨⟩, b⟩ := d.ptr <;> simp [IsLive, h1, h2]
    obtain ⟨r, fl, he, hfl⟩ := foldl_local t d as (act t d c a) fun a' ha' => h a' (by simp [ha'])
    refine ⟨r, fl, ?_, ?_⟩
    · rw [List.foldl_cons, he]
      have := h a (by simp)
      cases a <;> simp only [Action.IsLocal] at this
      case read => simp only [act]; split <;> rfl
      all_goals rfl
    · intro hl
      have := h a (by simp)
      cases a <;> simp only [Action.IsLocal] at this <;> simp only [act] at hfl ⊢ <;>
        simp_all [hs]

/-- The channel after a body's local statements: new replies and fault flag. -/
def withLocal (c : Channel) (r : List Osc.Message) (fl : Bool) : Channel :=
  { c with replies := r, faulted := fl }

/-- **One perform.** After its local statements a perform function does exactly its
hand-off, and a perform of a live block raises no fault. -/
theorem perform_eq (t : Thread) (cmd : Command) (c : Channel) :
    ∃ r fl, perform t cmd c = act t cmd.data (c.withLocal r fl) cmd.perform.handoff ∧
      (c.IsLive cmd.data.ptr → fl = c.faulted) := by
  obtain ⟨r, fl, he, hfl⟩ := foldl_local t cmd.data _ c (cmd.perform.body_eq.2)
  refine ⟨r, fl, ?_, hfl⟩
  rw [perform, cmd.perform.body_eq.1, List.foldl_append, he]
  rfl

section Local

variable (c : Channel) (r : List Osc.Message) (fl : Bool) (q : Queue) (l : List Command)

@[simp] theorem withLocal_attached : (c.withLocal r fl).attached = c.attached := rfl
@[simp] theorem withLocal_freed : (c.withLocal r fl).freed = c.freed := rfl
@[simp] theorem withLocal_frees : (c.withLocal r fl).frees = c.frees := rfl
@[simp] theorem withLocal_held : (c.withLocal r fl).held = c.held := rfl
@[simp] theorem withLocal_faulted : (c.withLocal r fl).faulted = fl := rfl
@[simp] theorem withLocal_carriers (p : Ptr) : (c.withLocal r fl).carriers p = c.carriers p := rfl
@[simp] theorem withLocal_queueOf : (c.withLocal r fl).queueOf q = c.queueOf q := by cases q <;> rfl
@[simp] theorem withLocal_nextOf (a : Alloc) : (c.withLocal r fl).nextOf a = c.nextOf a := by
  cases a <;> rfl
@[simp] theorem withLocal_isLive (p : Ptr) : (c.withLocal r fl).IsLive p ↔ c.IsLive p := Iff.rfl
@[simp] theorem withLocal_inflight : (c.withLocal r fl).inflight = c.inflight := rfl
@[simp] theorem withLocal_heap : (c.withLocal r fl).heap = c.heap := rfl

@[simp] theorem withLocal_free (t : Thread) (p : Ptr) :
    (c.withLocal r fl).free t p.alloc p = (c.free t p.alloc p).withLocal r fl := by
  cases h : p.alloc <;> rfl

@[simp] theorem setQueue_attached : (c.setQueue q l).attached = c.attached := by cases q <;> rfl
@[simp] theorem setQueue_frees : (c.setQueue q l).frees = c.frees := by cases q <;> rfl
@[simp] theorem setQueue_freed : (c.setQueue q l).freed = c.freed := by cases q <;> rfl
@[simp] theorem setQueue_held : (c.setQueue q l).held = c.held := by cases q <;> rfl
@[simp] theorem setQueue_heap : (c.setQueue q l).heap = c.heap := by cases q <;> rfl
@[simp] theorem setQueue_faulted : (c.setQueue q l).faulted = c.faulted := by cases q <;> rfl
@[simp] theorem setQueue_nextOf (a : Alloc) : (c.setQueue q l).nextOf a = c.nextOf a := by
  cases q <;> cases a <;> rfl
@[simp] theorem setQueue_isLive (p : Ptr) : (c.setQueue q l).IsLive p ↔ c.IsLive p := by
  cases q <;> exact Iff.rfl

end Local

section Pop

variable {c : Channel} {q : Queue} {cmd : Command} {rest : List Command}

/-- Taking the head off a place leaves the other commands in flight. -/
theorem inflight_pop_perm (hq : c.queueOf q = cmd :: rest) :
    c.inflight.Perm ((c.setQueue q rest).inflight ++ [cmd]) := by
  rw [List.perm_iff_count]; intro a
  have := inflight_setQueue_count c q rest a
  rw [hq] at this
  simp only [List.count_append, List.count_cons, List.count_nil, beq_iff_eq] at this ⊢
  omega

theorem carriers_pop (hq : c.queueOf q = cmd :: rest) (p : Ptr) :
    c.carriers p = (c.setQueue q rest).carriers p + if cmd.data.ptr = p then 1 else 0 := by
  simp [carriers, (inflight_pop_perm hq).countP_eq, List.countP_cons]

theorem queueOf_pop (hq : c.queueOf q = cmd :: rest) (q' : Queue) :
    ∀ x ∈ (c.setQueue q rest).queueOf q', x ∈ c.queueOf q' := by
  intro x hx
  rw [setQueue_queueOf] at hx
  split at hx
  · subst q'; simp [hq, hx]
  · exact hx

theorem inflight_pop (hq : c.queueOf q = cmd :: rest) :
    ∀ x ∈ (c.setQueue q rest).inflight, x ∈ c.inflight :=
  fun _ hx => (inflight_pop_perm hq).mem_iff.2 (List.mem_append_left _ hx)

/-- A queued command's block is attached, not freed, and carried by it alone. -/
theorem Inv.head_owned (hc : c.Inv) (hq : c.queueOf q = cmd :: rest) :
    cmd.data.ptr ∈ c.attached ∧ cmd.data.ptr ∉ c.freed ∧
      (c.setQueue q rest).carriers cmd.data.ptr = 0 := by
  have h1 := carriers_pop hq cmd.data.ptr
  have h2 := hc.carried cmd.data.ptr
  split at h2 <;> simp_all

/-- Performing a command that hands its block on keeps the invariant. -/
theorem Inv.forward (hc : c.Inv) (hq : c.queueOf q = cmd :: rest) {q' : Queue}
    {g : PerformFunc} (hg : cmd.perform.handoff = .send q' g) (r : List Osc.Message) :
    (((c.setQueue q rest).withLocal r false).send q' ⟨g, cmd.data⟩).Inv := by
  obtain ⟨rfl, hga⟩ := PerformFunc.handoff_send hg
  have halloc := hc.alloc cmd (mem_inflight.2 ⟨q, by simp [hq]⟩)
  refine ⟨?_, ?_, ?_, ?_, ?_, ?_, ?_, ?_, ?_, by simp⟩
  · intro q'' x hx
    rw [send_queueOf, withLocal_queueOf, List.mem_append] at hx
    rcases hx with hx | hx
    · exact hc.queued q'' x (queueOf_pop hq q'' x hx)
    · split at hx <;> simp_all
  · intro x hx
    obtain ⟨q'', hx⟩ := mem_inflight.1 hx
    rw [send_queueOf, withLocal_queueOf, List.mem_append] at hx
    rcases hx with hx | hx
    · exact hc.alloc x (inflight_pop hq x (mem_inflight.2 ⟨q'', hx⟩))
    · split at hx <;> simp_all
  · intro p
    rw [carriers_send, withLocal_carriers, ← carriers_pop hq p, hc.carried p]
    simp
  · intro p hp hf
    simp only [send_attached, send_freed, withLocal_attached, withLocal_freed,
      setQueue_attached, setQueue_freed, send_isLive, withLocal_isLive, setQueue_isLive] at *
    exact hc.live p hp hf
  · simpa using hc.frees
  · simpa using hc.nodup
  · simpa using hc.fresh
  · simpa using hc.held
  · simpa using hc.held_nodup

/-- Performing a command that frees its block keeps the invariant. -/
theorem Inv.release (hc : c.Inv) (hq : c.queueOf q = cmd :: rest) {a : Alloc}
    (ha : cmd.perform.handoff = .free a) (r : List Osc.Message) :
    (((c.setQueue q rest).withLocal r false).free q.thread a cmd.data.ptr).Inv := by
  obtain ⟨rfl, hthread⟩ := PerformFunc.handoff_free ha
  have hmem : cmd ∈ c.queueOf q := by simp [hq]
  have halloc := hc.alloc cmd (mem_inflight.2 ⟨q, hmem⟩)
  obtain ⟨hatt, hnf, hzero⟩ := hc.head_owned hq
  rw [← halloc, withLocal_free]
  refine ⟨?_, ?_, ?_, ?_, ?_, ?_, ?_, ?_, ?_, rfl⟩
  · intro q'' x hx
    simp only [withLocal_queueOf, free_queueOf] at hx
    exact hc.queued q'' x (queueOf_pop hq q'' x hx)
  · intro x hx
    simp only [withLocal_inflight, free_inflight] at hx
    exact hc.alloc x (inflight_pop hq x hx)
  · intro p
    simp only [withLocal_carriers, free_carriers, withLocal_attached, free_attached,
      setQueue_attached, withLocal_freed, free_freed, setQueue_freed, List.mem_append,
      List.mem_singleton, not_or]
    by_cases hp : p = cmd.data.ptr
    · subst hp; simp [hzero]
    · have := carriers_pop hq p
      rw [hc.carried p] at this
      simp only [Ne.symm hp, if_false, add_zero] at this
      simp [← this, hp]
  · intro p hp hf
    simp only [withLocal_attached, free_attached, setQueue_attached, withLocal_freed, free_freed,
      setQueue_freed, List.mem_append, List.mem_singleton, not_or, withLocal_isLive] at hp hf ⊢
    exact isLive_free.2 ⟨by simpa using hc.live p hp hf.1, hf.2⟩
  · intro e he
    simp only [withLocal_frees, free_frees, setQueue_frees, withLocal_attached, free_attached,
      setQueue_attached, List.mem_append, List.mem_singleton] at he ⊢
    rcases he with he | rfl
    · exact hc.frees e he
    · exact ⟨hatt, rfl, by show q.thread = _; rw [halloc, ← hthread, hc.queued q cmd hmem, Queue.thread_inbox]⟩
  · simpa using List.Nodup.append hc.nodup (List.nodup_singleton _)
      (List.disjoint_singleton.2 hnf)
  · simpa using hc.fresh
  · intro b hb
    simp only [withLocal_held, free_held, setQueue_held, withLocal_heap, free_heap_next,
      setQueue_heap, withLocal_attached, free_attached, setQueue_attached] at hb ⊢
    obtain ⟨h1, h2, h3⟩ := hc.held b hb
    refine ⟨h1, h2, ?_⟩
    have : (c.setQueue q rest).IsLive ⟨.nrt, b⟩ := by simpa using h3
    exact (isLive_free (t := q.thread) (q := ⟨.nrt, b⟩)).2 ⟨this, fun h => h2 (h ▸ hatt)⟩
  · simpa using hc.held_nodup

/-- **Performing the oldest command of a queue keeps the invariant.** -/
theorem Inv.perform (hc : c.Inv) (hq : c.queueOf q = cmd :: rest) :
    (perform q.thread cmd (c.setQueue q rest)).Inv := by
  obtain ⟨r, fl, he, hfl⟩ := perform_eq q.thread cmd (c.setQueue q rest)
  have hown := hc.head_owned hq
  obtain rfl : fl = false := by
    rw [hfl (by simpa using hc.live _ hown.1 hown.2.1)]; simpa using hc.not_faulted
  rw [he]
  rcases cmd.perform.handoff_cases with ⟨q', g, hg⟩ | ⟨a, ha⟩
  · rw [hg]; exact hc.forward hq hg r
  · rw [ha]; exact hc.release hq ha r

/-- **A worker thread taking the oldest command sent to the worker keeps the invariant.**
The commands in flight are the same, in another order. -/
theorem Inv.take (hc : c.Inv) {i : Fin 2} (hi : c.running i = []) (hq : c.toWorker = cmd :: rest) :
    ((c.setQueue .toWorker rest).setQueue (.running i) [cmd]).Inv := by
  have hq' : c.queueOf .toWorker = cmd :: rest := hq
  have hi' : c.queueOf (.running i) = [] := hi
  have hperm : ((c.setQueue .toWorker rest).setQueue (.running i) [cmd]).inflight.Perm
      c.inflight := by
    rw [List.perm_iff_count]; intro a
    have h1 := inflight_setQueue_count c .toWorker rest a
    have h2 := inflight_setQueue_count (c.setQueue .toWorker rest) (.running i) [cmd] a
    simp only [setQueue_queueOf, hq', hi', reduceCtorEq, if_false, List.count_cons,
      List.count_nil] at h1 h2
    omega
  refine ⟨fun q x hx => ?_, fun x hx => hc.alloc x (hperm.subset hx), fun p => ?_,
    by simpa using hc.live, by simpa using hc.frees, by simpa using hc.nodup,
    by simpa using hc.fresh, by simpa using hc.held, by simpa using hc.held_nodup,
    by simpa using hc.not_faulted⟩
  · simp only [setQueue_queueOf] at hx
    split_ifs at hx with h1 h2
    · subst h1; rw [List.mem_singleton.1 hx]; exact hc.queued .toWorker cmd (by simp [hq'])
    · subst h2; exact hc.queued .toWorker x (by simp [hq', hx])
    · exact hc.queued q x hx
  · simpa [carriers, hperm.countP_eq] using hc.carried p

end Pop

/-! ### Producers -/

section Producers

variable {c : Channel}

/-- Attaching a fresh live block to a new command keeps the invariant. -/
theorem Inv.attach (hc : c.Inv) {f : PerformFunc} {p : Ptr} (payload : Payload)
    (hnew : p ∉ c.attached) (hlive : c.IsLive p) (hlt : p.block < c.nextOf p.alloc)
    (hheld : ∀ b ∈ c.held, p ≠ ⟨.nrt, b⟩) (hf : p.alloc = f.dataAlloc) :
    (c.attach f p payload).Inv := by
  have hnf : p ∉ c.freed := fun h => by
    obtain ⟨e, he, rfl⟩ := List.mem_map.1 h
    exact hnew (hc.frees e he).1
  refine ⟨?_, ?_, ?_, ?_, ?_, ?_, ?_, ?_, ?_, by simpa [Channel.attach] using hc.not_faulted⟩
  · intro q x hx
    rw [Channel.attach, send_queueOf, List.mem_append] at hx
    rcases hx with hx | hx
    · exact hc.queued q x hx
    · split at hx <;> simp_all
  · intro x hx
    obtain ⟨q, hx⟩ := mem_inflight.1 hx
    rw [Channel.attach, send_queueOf, List.mem_append] at hx
    rcases hx with hx | hx
    · exact hc.alloc x (mem_inflight.2 ⟨q, hx⟩)
    · split at hx <;> simp_all
  · intro p'
    rw [Channel.attach, carriers_send, send_attached, send_freed]
    show c.carriers p' + _ = if p' ∈ c.attached ++ [p] ∧ p' ∉ c.freed then 1 else 0
    have := hc.carried p'
    by_cases hp : p = p'
    · subst hp; simp only [hnew, false_and, if_false] at this; simp [this, hnf]
    · simp [this, hp, Ne.symm hp]
  · intro p' hp' hf'
    simp only [Channel.attach, send_attached, send_freed, send_isLive, List.mem_append,
      List.mem_singleton] at hp' hf' ⊢
    rcases hp' with hp' | rfl
    · exact hc.live p' hp' hf'
    · exact hlive
  · intro e he
    simp only [Channel.attach, send_frees, send_attached, List.mem_append] at he ⊢
    exact ⟨.inl (hc.frees e he).1, (hc.frees e he).2⟩
  · simpa [Channel.attach] using hc.nodup
  · intro p' hp'
    simp only [Channel.attach, send_attached, send_nextOf, List.mem_append, List.mem_singleton] at hp' ⊢
    rcases hp' with hp' | rfl
    · exact hc.fresh p' hp'
    · exact hlt
  · intro b hb
    simp only [Channel.attach, send_held, send_heap, send_attached, List.mem_append,
      List.mem_singleton, not_or] at hb ⊢
    exact ⟨(hc.held b hb).1, ⟨(hc.held b hb).2.1, fun h => hheld b hb h.symm⟩, (hc.held b hb).2.2⟩
  · simpa [Channel.attach] using hc.held_nodup

/-- A successful arena allocation keeps the invariant and returns a fresh live block. -/
theorem Inv.rtAlloc (hc : c.Inv) {n b : Nat} {m : RTMemoryManager}
    (h : c.rtMem.alloc n = .ok (b, m)) :
    ({ c with rtMem := m } : Channel).Inv ∧ (⟨.rt, b⟩ : Ptr) ∉ c.attached ∧
      ({ c with rtMem := m } : Channel).IsLive ⟨.rt, b⟩ ∧ b < m.next := by
  obtain ⟨rfl, rfl⟩ := RTMemoryManager.alloc_eq_ok h
  have hlive : ∀ p, c.IsLive p → ({ c with rtMem := { c.rtMem with
      live := (c.rtMem.next, n) :: c.rtMem.live, next := c.rtMem.next + 1 } } : Channel).IsLive p := by
    intro p hp; obtain ⟨⟨⟩, b⟩ := p <;> simp_all [IsLive, RTMemoryManager.IsLive]
  refine ⟨⟨hc.queued, hc.alloc, hc.carried, fun p hp hf => hlive p (hc.live p hp hf), hc.frees,
    hc.nodup, ?_, hc.held, hc.held_nodup, hc.not_faulted⟩, fun h => ?_, ?_, by simp⟩
  · intro p hp
    have := hc.fresh p hp
    cases h : p.alloc <;> simp_all [nextOf]
    omega
  · have := hc.fresh _ h; simp [nextOf] at this
  · simp [IsLive, RTMemoryManager.IsLive]

/-- A heap allocation keeps the invariant. -/
theorem Inv.heapAlloc (hc : c.Inv) : ({ c with heap := c.heap.alloc.2 } : Channel).Inv := by
  have hlive : ∀ p, c.IsLive p → ({ c with heap := c.heap.alloc.2 } : Channel).IsLive p := by
    intro p hp; obtain ⟨⟨⟩, b⟩ := p <;> simp_all [IsLive, Heap.alloc]
  refine ⟨hc.queued, hc.alloc, hc.carried, fun p hp hf => hlive p (hc.live p hp hf), hc.frees,
    hc.nodup, ?_, ?_, hc.held_nodup, hc.not_faulted⟩
  · intro p hp
    have := hc.fresh p hp
    cases h : p.alloc <;> simp_all [nextOf, Heap.alloc]
    omega
  · intro b hb
    obtain ⟨h1, h2, h3⟩ := hc.held b hb
    exact ⟨by simp [Heap.alloc]; omega, h2, by simp [Heap.alloc, h3]⟩

theorem Inv.heap_fresh (hc : c.Inv) : (⟨.nrt, c.heap.next⟩ : Ptr) ∉ c.attached :=
  fun h => by have := hc.fresh _ h; simp [nextOf] at this

end Producers

/-! ### Runs -/

theorem inv_new (n : Nat) : (new n).Inv := by
  refine ⟨fun q => ?_, fun _ h => ?_, fun _ => ?_, fun _ h => ?_, fun _ h => ?_, ?_, fun _ h => ?_,
    fun _ h => ?_, ?_, rfl⟩ <;> (try cases q) <;> simp_all [new, queueOf, inflight, carriers, freed]

/-- **Every step keeps the invariant**, on either side and in any order. -/
theorem Inv.step {c : Channel} (hc : c.Inv) (s : Step) : (c.step s).Inv := by
  cases s with
  | replyError rid msg =>
    simp only [Channel.step, Channel.replyError]
    cases h : c.rtMem.alloc (errorDataSize + msg.utf8ByteSize + 1) with
    | error e => exact hc
    | ok r =>
      obtain ⟨h1, h2, h3, h4⟩ := hc.rtAlloc h
      exact h1.attach _ h2 h3 h4 (by simp) rfl
  | world_perform_command =>
    simp only [Channel.step, Channel.world_perform_command]
    cases h : c.rtMem.alloc callbackDataSize with
    | error e => exact hc
    | ok r =>
      obtain ⟨h1, h2, h3, h4⟩ := hc.rtAlloc h
      exact h1.attach _ h2 h3 h4 (by simp) rfl
  | host_perform_command =>
    refine hc.heapAlloc.attach (f := .perform_worldCommand) _ hc.heap_fresh (by simp [IsLive, Heap.alloc])
      (by simp [nextOf, Heap.alloc]) (fun b hb h => ?_) rfl
    have := (hc.held b hb).1
    simp only [Ptr.mk.injEq, true_and] at h
    omega
  | request_new =>
    have h := hc.heapAlloc
    refine ⟨h.queued, h.alloc, h.carried, h.live, h.frees, h.nodup, h.fresh, ?_, ?_,
      h.not_faulted⟩
    · intro b hb
      simp only [Channel.step, Channel.request_new, List.mem_cons] at hb
      rcases hb with rfl | hb
      · exact ⟨by simp [Channel.step, Channel.request_new, Heap.alloc], hc.heap_fresh,
          by simp [Channel.step, Channel.request_new, Heap.alloc]⟩
      · exact h.held b hb
    · refine List.nodup_cons.2 ⟨fun hb => ?_, hc.held_nodup⟩
      have := (hc.held _ hb).1
      omega
  | request_release b =>
    simp only [Channel.step, Channel.request_release]
    split
    · rename_i hb
      have h1 : ({ c with held := c.held.erase b } : Channel).Inv :=
        ⟨hc.queued, hc.alloc, hc.carried, hc.live, hc.frees, hc.nodup, hc.fresh,
          fun b' hb' => hc.held b' (List.mem_of_mem_erase hb'), hc.held_nodup.erase b,
          hc.not_faulted⟩
      obtain ⟨hlt, hnew, hlive⟩ := hc.held b hb
      refine h1.attach _ hnew hlive hlt (fun b' hb' h => ?_) rfl
      simp only [Ptr.mk.injEq, true_and] at h
      subst h
      exact (List.Nodup.mem_erase_iff hc.held_nodup).1 hb' |>.1 rfl
    · exact hc
  | audio_perform =>
    simp only [Channel.step]
    split
    · exact hc
    · rename_i cmd rest h
      exact hc.perform (q := .fromWorker) h
  | worker_take i =>
    simp only [Channel.step]
    split
    · rename_i cmd rest hi hq
      exact hc.take hi hq
    · exact hc
  | worker_perform i =>
    simp only [Channel.step]
    split
    · exact hc
    · rename_i cmd rest h
      exact hc.perform (q := .running i) h

theorem inv_foldl (steps : List Step) {c : Channel} (hc : c.Inv) : (steps.foldl step c).Inv := by
  induction steps generalizing c with
  | nil => exact hc
  | cons s steps ih => exact ih (hc.step s)

/-! ### Draining -/

section Load

variable {c : Channel} {q : Queue} {cmd : Command} {rest : List Command}

@[simp] theorem loadOf_nil : loadOf q [] = 0 := rfl
@[simp] theorem loadOf_cons : loadOf q (cmd :: rest) = q.cost cmd.perform + loadOf q rest := by
  simp [loadOf]
@[simp] theorem loadOf_append (l l' : List Command) : loadOf q (l ++ l') = loadOf q l + loadOf q l' := by
  simp [loadOf]

theorem one_le_cost (q : Queue) (f : PerformFunc) : 1 ≤ q.cost f :=
  Nat.le_add_right_of_le (by cases f <;> decide)

/-- Setting place `q` to `l` swaps its load for that of `l`. -/
theorem load_setQueue (c : Channel) (q : Queue) (l : List Command) :
    (c.setQueue q l).load + loadOf q (c.queueOf q) = c.load + loadOf q l := by
  rcases q with _ | _ | i
  · simp [load, setQueue, queueOf]; omega
  · simp [load, setQueue, queueOf]; omega
  · fin_cases i <;> simp [load, setQueue, queueOf, Function.update_apply] <;> omega

theorem load_send (c : Channel) (q : Queue) (cmd : Command) :
    (c.send q cmd).load = c.load + q.cost cmd.perform := by
  have := load_setQueue c q (c.queueOf q ++ [cmd])
  rw [← send_eq_setQueue, loadOf_append, loadOf_cons, loadOf_nil] at this
  omega

theorem load_pop (hq : c.queueOf q = cmd :: rest) :
    c.load = (c.setQueue q rest).load + q.cost cmd.perform := by
  have := load_setQueue c q rest
  rw [hq, loadOf_cons] at this
  omega

/-- Each perform takes one off the load: a hand-off replaces a command by one of cost one
less, a free removes a command of weight one. The command was sent from the worker, or a
worker thread took it. -/
theorem load_perform (hq : c.queueOf q = cmd :: rest) (hw : q ≠ .toWorker) :
    (perform q.thread cmd (c.setQueue q rest)).load + 1 = c.load := by
  obtain ⟨r, fl, he, -⟩ := perform_eq q.thread cmd (c.setQueue q rest)
  have hcost : q.cost cmd.perform = cmd.perform.weight := by
    cases q <;> simp_all [Queue.cost]
  rw [he, load_pop hq, hcost]
  rcases cmd.perform.handoff_cases with ⟨q', g, hg⟩ | ⟨a, ha⟩
  · rw [hg, cmd.perform.weight_handoff.1 q' g hg]
    simp only [act, load_send]
    rfl
  · rw [ha, cmd.perform.weight_handoff.2 a ha]
    cases a <;> rfl

/-- A worker thread taking a command takes one off the load. -/
theorem load_take {i : Fin 2} (hi : c.running i = []) (hq : c.toWorker = cmd :: rest) :
    ((c.setQueue .toWorker rest).setQueue (.running i) [cmd]).load + 1 = c.load := by
  have h1 := load_setQueue c .toWorker rest
  have h2 := load_setQueue (c.setQueue .toWorker rest) (.running i) [cmd]
  have hq' : c.queueOf .toWorker = cmd :: rest := hq
  have hi' : c.queueOf (.running i) = [] := hi
  simp only [setQueue_queueOf, hq', hi', reduceCtorEq, if_false, loadOf_cons, loadOf_nil,
    Queue.cost] at h1 h2
  omega

theorem inflight_eq_nil (h : c.load = 0) : c.inflight = [] := by
  have nil_of : ∀ q l, loadOf q l = 0 → l = [] := fun q l hl => by
    cases l with
    | nil => rfl
    | cons x l => have := one_le_cost q x.perform; simp at hl; omega
  simp only [load, Nat.add_eq_zero] at h
  simp [inflight, nil_of _ _ h.1.1.1, nil_of _ _ h.1.1.2, nil_of _ _ h.1.2, nil_of _ _ h.2]

end Load

theorem attached_perform (t : Thread) (cmd : Command) (c : Channel) :
    (perform t cmd c).attached = c.attached := by
  obtain ⟨r, fl, he, -⟩ := perform_eq t cmd c
  rw [he]
  rcases cmd.perform.handoff_cases with ⟨q', g, hg⟩ | ⟨a, ha⟩
  · rw [hg]; simp [act]
  · rw [ha]; simp [act]

/-- **Draining terminates within the load.** Running both sides `c.load` times empties the
queues, keeps the invariant and attaches nothing new. -/
theorem Inv.drain {c : Channel} (hc : c.Inv) :
    ∀ n, c.load ≤ n → (c.drain n).Inv ∧ (c.drain n).inflight = [] ∧
      (c.drain n).attached = c.attached := by
  intro n
  induction n generalizing c with
  | zero => intro h; exact ⟨hc, inflight_eq_nil (Nat.le_zero.1 h), rfl⟩
  | succ n ih =>
    intro hn
    have next : ∀ s, (c.step s).load + 1 = c.load → (c.step s).attached = c.attached →
        ((c.step s).drain n).Inv ∧ ((c.step s).drain n).inflight = [] ∧
          ((c.step s).drain n).attached = c.attached := fun s hl ha =>
      let ⟨i1, i2, i3⟩ := ih (hc.step s) (by omega)
      ⟨i1, i2, i3.trans ha⟩
    have performs : ∀ q cmd rest, c.queueOf q = cmd :: rest → q ≠ .toWorker → ∀ s,
        c.step s = Channel.perform q.thread cmd (c.setQueue q rest) →
        ((c.step s).drain n).Inv ∧ ((c.step s).drain n).inflight = [] ∧
          ((c.step s).drain n).attached = c.attached := fun q cmd rest hq hw s he =>
      next s (he ▸ load_perform hq hw) (by rw [he, attached_perform, setQueue_attached])
    rw [Channel.drain]
    split
    · rename_i cmd rest h
      exact performs (.running 0) cmd rest h nofun _ (by simp only [Channel.step, h]; rfl)
    · rename_i cmd rest _ h
      exact performs (.running 1) cmd rest h nofun _ (by simp only [Channel.step, h]; rfl)
    · rename_i cmd rest h0 _ h
      exact next _ (by simp only [Channel.step, h0, h]; exact load_take h0 h)
        (by simp only [Channel.step, h0, h])
    · rename_i cmd rest _ _ _ h
      exact performs .fromWorker cmd rest h nofun _ (by simp only [Channel.step, h]; rfl)
    · rename_i h0 h1 h2 h3
      exact ⟨hc, by simp [inflight, h0, h1, h2, h3], rfl⟩

end Channel

open Channel in
/-- **The worker channel frees every attached block exactly once.** Under any interleaving
of the audio thread and the two worker threads, starting from an empty channel: no perform
function reads a block that is not live, no block is freed twice, every free uses the
allocator the block came from on that allocator's own thread (the arena on the audio thread
through `perform_rt_free`, the heap on a worker thread), a block not yet freed is carried by
exactly one command in a queue or held by a worker thread, and draining the queues frees
each attached block exactly once. Every perform function hands its data on, or frees it, in
its last statement. -/
theorem worker_frees_exactly_once (rtSize : Nat) (steps : List Step) :
    let c := steps.foldl Channel.step (Channel.new rtSize)
    c.faulted = false ∧ c.freed.Nodup ∧
    (∀ e ∈ c.frees, e.ptr ∈ c.attached ∧ e.alloc = e.ptr.alloc ∧ e.thread = e.ptr.alloc.home) ∧
    (∀ p ∈ c.attached, p ∉ c.freed → c.carriers p = 1) ∧
    (∀ p ∈ c.attached, (c.drain c.load).freed.count p = 1) ∧
    ∀ f : PerformFunc, f.body = f.body.dropLast ++ [f.handoff] ∧ ∀ a ∈ f.body.dropLast, a.IsLocal := by
  intro c
  have hc : c.Inv := inv_foldl steps (inv_new rtSize)
  refine ⟨hc.not_faulted, hc.nodup, hc.frees, fun p hp hf => by simpa [hp, hf] using hc.carried p,
    fun p hp => ?_, PerformFunc.body_eq⟩
  obtain ⟨hd, hnil, hatt⟩ := hc.drain c.load le_rfl
  have hmem : p ∈ (c.drain c.load).freed := by
    by_contra hf
    have := hd.carried p
    simp only [carriers, hnil, List.countP_nil, hatt, hp, hf, not_false_eq_true, and_self,
      if_true] at this
    exact absurd this (by decide)
  exact List.count_eq_one_of_mem hd.nodup hmem

end Methcla
